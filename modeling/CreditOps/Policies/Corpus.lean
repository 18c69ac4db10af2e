import CreditOps.Inference.Extraction
import Mathlib.Data.Finset.Card
import Mathlib.Data.List.Sort
import Mathlib.Data.Prod.Lex
import Mathlib.Data.String.Basic

/-!
# The policy corpus

Retrieval walks the documents, while grounding looks a clause up by the ids of document and clause and takes
the first match. The two agree on exactly the corpora in which the ids name one text
(`retrieval_grounded_iff`); the loader checks no id.
-/

set_option autoImplicit false

namespace CreditOps.Policies

open Inference OrderDual

/-- A clause; the loader gives it the id of its document. -/
@[ext] structure PolicyClause where
  clauseId : String
  textVi : String
deriving DecidableEq

/-- A document of the corpus. -/
structure PolicyDocument where
  documentId : String
  titleVi : String
  clauses : List PolicyClause

/-- What retrieval and grounding read of a loaded corpus. -/
structure PolicyCorpus where
  corpusId : String
  version : String
  documents : List PolicyDocument

/-- A retrieved clause with its exact text. -/
structure PolicyHit where
  corpusId : String
  corpusVersion : String
  documentId : String
  documentTitleVi : String
  clauseId : String
  quotedTextVi : String
  score : Nat

/-- `_tokenize`: the maximal runs of word characters, case-folded. -/
def tokenize (tables : UnicodeTables) (text : String) : Finset String :=
  (((text.toList.splitOnP (! isWordChar tables ·)).filter (· ≠ [])).map fun run =>
    String.ofList (run.flatMap tables.casefold)).toFinset

/-- `_overlap_score` -/
def overlapScore (queryTokens clauseTokens : Finset String) : Nat :=
  (queryTokens ∩ clauseTokens).card

/-- The key of `search`: `(-score, document_id, clause_id)` -/
def PolicyHit.searchKey (hit : PolicyHit) : ℕᵒᵈ ×ₗ String ×ₗ String :=
  toLex (toDual hit.score, toLex (hit.documentId, hit.clauseId))

/-- The key of `retrieve_relevant`: `(-score, clause_id)` -/
def PolicyHit.clauseKey (hit : PolicyHit) : ℕᵒᵈ ×ₗ String :=
  toLex (toDual hit.score, hit.clauseId)

namespace PolicyCorpus

variable (corpus : PolicyCorpus) (tables : UnicodeTables) (queryVi : String)

def document (documentId : String) : Option PolicyDocument :=
  corpus.documents.find? (·.documentId = documentId)

def clause (documentId clauseId : String) : Option PolicyClause :=
  (corpus.document documentId).bind fun document => document.clauses.find? (·.clauseId = clauseId)

def citationIsGrounded (corpusId corpusVersion documentId clauseId quotedTextVi : String) : Bool :=
  corpusId = corpus.corpusId ∧ corpusVersion = corpus.version ∧
    (corpus.clause documentId clauseId).any (·.textVi = quotedTextVi)

/-- The hit of a clause, with its overlap. -/
def hit (document : PolicyDocument) (clause : PolicyClause) : PolicyHit where
  corpusId := corpus.corpusId
  corpusVersion := corpus.version
  documentId := document.documentId
  documentTitleVi := document.titleVi
  clauseId := clause.clauseId
  quotedTextVi := clause.textVi
  score := overlapScore (tokenize tables queryVi) (tokenize tables clause.textVi)

/-- The hits of a document, in the order of its clauses. -/
def hits (document : PolicyDocument) : List PolicyHit :=
  document.clauses.map (corpus.hit tables queryVi document)

def search (topK : Nat) : List PolicyHit :=
  (((corpus.documents.flatMap (corpus.hits tables queryVi)).filter (0 < ·.score)).insertionSort
    fun a b => a.searchKey ≤ b.searchKey).take topK

/-- The hits `retrieve_relevant` takes of one document. -/
def relevant (topK : Nat) (document : PolicyDocument) : List PolicyHit :=
  ((corpus.hits tables queryVi document).insertionSort fun a b => a.clauseKey ≤ b.clauseKey).take topK

def retrieveRelevant (topK : Nat) : List PolicyHit :=
  corpus.documents.flatMap (corpus.relevant tables queryVi topK)

/-! ## Grounded hits -/

/-- The hit is grounded on the corpus. -/
def Grounded (hit : PolicyHit) : Prop :=
  corpus.citationIsGrounded hit.corpusId hit.corpusVersion hit.documentId hit.clauseId hit.quotedTextVi

/-- The ids name one text: equal clause ids of a document carry equal texts, and every clause of a document
stands in the first document of its id. -/
structure Unambiguous : Prop where
  texts : ∀ document ∈ corpus.documents, ∀ clause ∈ document.clauses, ∀ other ∈ document.clauses,
    clause.clauseId = other.clauseId → clause = other
  repeats : ∀ document ∈ corpus.documents, ∀ first ∈ corpus.document document.documentId,
    document.clauses ⊆ first.clauses

/-- The block holds `min(k, n)` of the `n` hits, sorted by overlap and clause id, and no hit that is left
out comes before one of them. -/
def IsTop (topK : Nat) (hits block : List PolicyHit) : Prop :=
  block.length = min topK hits.length ∧ block.Pairwise (·.clauseKey ≤ ·.clauseKey) ∧
    ∃ rest, (block ++ rest).Perm hits ∧ ∀ hit ∈ block, ∀ other ∈ rest, hit.clauseKey ≤ other.clauseKey

variable {corpus tables queryVi} {topK : Nat} {document : PolicyDocument} {clause : PolicyClause}

theorem isTop_relevant :
    IsTop topK (corpus.hits tables queryVi document) (corpus.relevant tables queryVi topK document) := by
  have : Std.Total fun a b : PolicyHit => a.clauseKey ≤ b.clauseKey := ⟨fun _ _ => le_total _ _⟩
  have : IsTrans PolicyHit fun a b => a.clauseKey ≤ b.clauseKey := ⟨fun _ _ _ hab hbc => hab.trans hbc⟩
  unfold relevant
  generalize corpus.hits tables queryVi document = hits
  have hperm := List.perm_insertionSort (fun a b : PolicyHit => a.clauseKey ≤ b.clauseKey) hits
  have hsort := List.pairwise_insertionSort (fun a b : PolicyHit => a.clauseKey ≤ b.clauseKey) hits
  rw [← List.take_append_drop topK (hits.insertionSort _)] at hperm hsort
  obtain ⟨hblock, -, hrest⟩ := List.pairwise_append.1 hsort
  refine ⟨?_, hblock, _, hperm, hrest⟩
  rw [List.length_take, (List.perm_insertionSort _ hits).length_eq]

/-- A hit is grounded when the lookup finds its clause. -/
theorem grounded_iff : corpus.Grounded (corpus.hit tables queryVi document clause) ↔
    clause ∈ corpus.clause document.documentId clause.clauseId := by
  unfold Grounded citationIsGrounded
  rw [decide_eq_true_iff, Option.any_eq_true]
  constructor
  · rintro ⟨-, -, found, hfound, htext⟩
    obtain ⟨_, _, hfind⟩ := Option.bind_eq_some_iff.1 hfound
    have hid := List.find?_some hfind
    rwa [PolicyClause.ext (of_decide_eq_true hid) (of_decide_eq_true htext)] at hfound
  · intro hfound
    exact ⟨rfl, rfl, clause, hfound, decide_eq_true rfl⟩

/-- On an unambiguous corpus every clause is found under its ids. -/
theorem Unambiguous.clause_mem (h : corpus.Unambiguous) (hdoc : document ∈ corpus.documents)
    (hclause : clause ∈ document.clauses) : clause ∈ corpus.clause document.documentId clause.clauseId := by
  cases hfirst : corpus.document document.documentId with
  | none => exact absurd (decide_eq_true rfl) (List.find?_eq_none.1 hfirst document hdoc)
  | some first =>
    have hmem := h.repeats document hdoc first hfirst hclause
    rw [PolicyCorpus.clause, hfirst, Option.bind_some]
    cases hfound : first.clauses.find? (·.clauseId = clause.clauseId) with
    | none => exact absurd (decide_eq_true rfl) (List.find?_eq_none.1 hfound clause hmem)
    | some found =>
      have hid := List.find?_some hfound
      rw [h.texts first (List.mem_of_find?_eq_some hfirst) found (List.mem_of_find?_eq_some hfound) clause hmem
        (of_decide_eq_true hid)]
      rfl

/-- Retrieving all clauses of the documents shows whether they are found under their ids. -/
theorem unambiguous_of_grounded
    (h : ∀ topK, ∀ hit ∈ corpus.retrieveRelevant tables queryVi topK, corpus.Grounded hit) :
    corpus.Unambiguous := by
  have hfound : ∀ document ∈ corpus.documents, ∀ clause ∈ document.clauses,
      clause ∈ corpus.clause document.documentId clause.clauseId := by
    intro document hdoc clause hclause
    refine grounded_iff.1 (h document.clauses.length (corpus.hit tables queryVi document clause)
      (List.mem_flatMap.2 ⟨document, hdoc, ?_⟩))
    have hall := List.perm_insertionSort (fun a b : PolicyHit => a.clauseKey ≤ b.clauseKey)
      (corpus.hits tables queryVi document)
    rw [relevant, List.take_of_length_le (by rw [hall.length_eq, hits, List.length_map])]
    exact hall.mem_iff.2 (List.mem_map_of_mem hclause)
  refine ⟨?_, ?_⟩
  · intro document hdoc clause hclause other hother hid
    have hsame := hfound document hdoc clause hclause
    rw [hid] at hsame
    exact Option.mem_unique hsame (hfound document hdoc other hother)
  · intro document hdoc first hfirst clause hclause
    obtain ⟨_, hdocument, hfind⟩ := Option.bind_eq_some_iff.1 (hfound document hdoc clause hclause)
    cases hfirst.symm.trans hdocument
    exact List.mem_of_find?_eq_some hfind

/-- **When every hit is grounded.** The blocks of the documents are always the ones of highest overlap. -/
theorem retrieval_grounded_iff :
    (∀ queryVi topK, (∀ hit ∈ corpus.search tables queryVi topK, corpus.Grounded hit) ∧
      (∀ hit ∈ corpus.retrieveRelevant tables queryVi topK, corpus.Grounded hit) ∧
      ∃ block, corpus.retrieveRelevant tables queryVi topK = corpus.documents.flatMap block ∧
        ∀ document ∈ corpus.documents, IsTop topK (corpus.hits tables queryVi document) (block document)) ↔
      corpus.Unambiguous := by
  constructor
  · intro h
    exact unambiguous_of_grounded fun topK => (h "" topK).2.1
  · intro h queryVi topK
    have hgrounded : ∀ hit, ∀ document ∈ corpus.documents, hit ∈ corpus.hits tables queryVi document →
        corpus.Grounded hit := by
      intro hit document hdoc hhit
      obtain ⟨_, hclause, rfl⟩ := List.mem_map.1 hhit
      exact grounded_iff.2 (h.clause_mem hdoc hclause)
    refine ⟨?_, ?_, _, rfl, fun _ _ => isTop_relevant⟩
    · intro hit hhit
      have hsort := (List.perm_insertionSort _ _).mem_iff.1 (List.mem_of_mem_take hhit)
      obtain ⟨document, hdoc, hmem⟩ := List.mem_flatMap.1 (List.mem_filter.1 hsort).1
      exact hgrounded hit document hdoc hmem
    · intro hit hhit
      obtain ⟨document, hdoc, hrel⟩ := List.mem_flatMap.1 hhit
      exact hgrounded hit document hdoc ((List.perm_insertionSort _ _).mem_iff.1 (List.mem_of_mem_take hrel))

/-- A document that uses a clause id for two texts. -/
def twoTexts : PolicyCorpus where
  corpusId := "C"
  version := "v1"
  documents := [⟨"D", "Chính sách", [⟨"1", "một"⟩, ⟨"1", "hai"⟩]⟩]

example : ¬ twoTexts.Unambiguous := fun h =>
  absurd (h.texts _ (List.mem_singleton.2 rfl) ⟨"1", "một"⟩ List.mem_cons_self ⟨"1", "hai"⟩
    (List.mem_cons_of_mem _ List.mem_cons_self) rfl) (by decide)

end PolicyCorpus

end CreditOps.Policies
