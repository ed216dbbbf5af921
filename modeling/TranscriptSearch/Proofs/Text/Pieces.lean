import TranscriptSearch.Proofs.Match.Packing

namespace TranscriptSearch.Text

/-- Pieces of a text, in order and without overlap.  Only characters that may be dropped stand
before, between and behind them. -/
inductive Pieces (dropped : Char → Bool) : List (List Char) → List Char → Prop
  | nil {gap : List Char} : (∀ c ∈ gap, dropped c = true) → Pieces dropped [] gap
  | cons (gap piece : List Char) {pieces : List (List Char)} {rest : List Char} :
      (∀ c ∈ gap, dropped c = true) → Pieces dropped pieces rest →
        Pieces dropped (piece :: pieces) (gap ++ (piece ++ rest))

/-- Pieces of a text of which the first one stands at the front. -/
def LeadingPieces (dropped : Char → Bool) (piece : List Char) (pieces : List (List Char))
    (text : List Char) : Prop :=
  ∃ rest, text = piece ++ rest ∧ Pieces dropped pieces rest

namespace Pieces

variable {dropped other : Char → Bool} {pieces morePieces : List (List Char)}
  {gap piece text more : List Char}

theorem prepend (hgap : ∀ c ∈ gap, dropped c = true) (h : Pieces dropped pieces text) :
    Pieces dropped pieces (gap ++ text) := by
  cases h with
  | nil h =>
      refine .nil fun c hc => ?_
      rcases List.mem_append.mp hc with hc | hc
      · exact hgap c hc
      · exact h c hc
  | cons between piece h hrest =>
      rw [← List.append_assoc]
      refine .cons (gap ++ between) piece (fun c hc => ?_) hrest
      rcases List.mem_append.mp hc with hc | hc
      · exact hgap c hc
      · exact h c hc

theorem leading (piece : List Char) (h : Pieces dropped pieces text) :
    Pieces dropped (piece :: pieces) (piece ++ text) :=
  .cons [] piece (by simp) h

theorem behind (gap : List Char) (h : Pieces (fun _ => true) pieces text) :
    Pieces (fun _ => true) pieces (gap ++ text) :=
  h.prepend fun _ _ => rfl

theorem single (dropped : Char → Bool) (text : List Char) : Pieces dropped [text] text := by
  have h : Pieces dropped [] [] := .nil (by simp)
  simpa using h.leading text

theorem append (h : Pieces dropped pieces text) (h' : Pieces dropped morePieces more) :
    Pieces dropped (pieces ++ morePieces) (text ++ more) := by
  induction h with
  | nil h => exact h'.prepend h
  | cons gap piece h _ ih =>
      rw [List.append_assoc, List.append_assoc]
      exact .cons gap piece h ih

theorem flatten (dropped : Char → Bool) (pieces : List (List Char)) :
    Pieces dropped pieces pieces.flatten := by
  induction pieces with
  | nil => exact .nil (by simp)
  | cons piece pieces ih => exact ih.leading piece

theorem mono (hdropped : ∀ c, dropped c = true → other c = true)
    (h : Pieces dropped pieces text) : Pieces other pieces text := by
  induction h with
  | nil h => exact .nil fun c hc => hdropped c (h c hc)
  | cons gap piece h _ ih => exact .cons gap piece (fun c hc => hdropped c (h c hc)) ih

theorem flatMap {cut : List Char → List (List Char)} (h : Pieces dropped pieces text)
    (hcut : ∀ piece ∈ pieces, Pieces dropped (cut piece) piece) :
    Pieces dropped (pieces.flatMap cut) text := by
  induction h with
  | nil h => exact .nil h
  | cons gap piece h _ ih =>
      have hrest := ih fun piece hpiece => hcut piece (by simp [hpiece])
      exact ((hcut piece (by simp)).append hrest).prepend h

theorem mem (h : Pieces dropped pieces text) (hpiece : piece ∈ pieces) {c : Char}
    (hc : c ∈ piece) :
    c ∈ text := by
  induction h with
  | nil => simp at hpiece
  | cons gap first _ _ ih =>
      rcases List.mem_cons.mp hpiece with rfl | hpiece
      · simp [hc]
      · simp [ih hpiece]

theorem take (h : Pieces (fun _ => true) pieces text) (n : Nat) :
    Pieces (fun _ => true) (pieces.take n) text := by
  induction h generalizing n with
  | nil h => simpa using Pieces.nil h
  | cons gap piece h hrest ih =>
      cases n with
      | zero => exact .nil (by simp)
      | succ n => exact .cons gap piece h (ih n)

end Pieces

theorem LeadingPieces.pieces {dropped : Char → Bool} {piece text : List Char}
    {pieces : List (List Char)} (h : LeadingPieces dropped piece pieces text) :
    Pieces dropped (piece :: pieces) text := by
  obtain ⟨rest, rfl, hrest⟩ := h
  exact hrest.leading piece

theorem pieces_of_isPrefix {piece text : List Char} (h : piece <+: text) :
    Pieces (fun _ => true) [piece] text := by
  obtain ⟨rest, rfl⟩ := h
  exact .leading piece (.nil (by simp))

end TranscriptSearch.Text

namespace TranscriptSearch.SearchTerm

open Text

/-- The number of occurrences of a term in a list of texts, each given by its characters. -/
def countChars (term : SearchTerm) (texts : List (List Char)) : Nat :=
  term.countIn (texts.map String.ofList)

variable (term : SearchTerm)

@[simp] theorem countChars_nil : term.countChars [] = 0 := rfl

@[simp] theorem countChars_cons (text : List Char) (texts : List (List Char)) :
    term.countChars (text :: texts) = term.count (.ofList text) + term.countChars texts := rfl

@[simp] theorem countIn_nil : term.countIn [] = 0 := rfl

@[simp] theorem countIn_cons (text : String) (texts : List String) :
    term.countIn (text :: texts) = term.count text + term.countIn texts := rfl

@[simp] theorem countIn_append (a b : List String) :
    term.countIn (a ++ b) = term.countIn a + term.countIn b := by
  simp [countIn]

@[simp] theorem countChars_append (a b : List (List Char)) :
    term.countChars (a ++ b) = term.countChars a + term.countChars b := by
  simp [countChars]

@[simp] theorem count_empty : term.count "" = 0 := by
  simp [count, spans_eq_scanFolded, foldedChars, scanFolded]

/-- Pieces of a text hold no more occurrences than the text. -/
theorem countChars_le_of_pieces {dropped : Char → Bool} {pieces : List (List Char)}
    {text : List Char} (h : Pieces dropped pieces text) :
    term.countChars pieces ≤ term.count (.ofList text) := by
  induction h with
  | nil => exact Nat.zero_le _
  | @cons gap piece pieces rest _ _ ih =>
      have hgap := term.count_append_le (.ofList gap) (.ofList (piece ++ rest))
      have hpiece := term.count_append_le (.ofList piece) (.ofList rest)
      simp only [← String.ofList_append] at hgap hpiece
      simp only [countChars_cons]
      omega

end TranscriptSearch.SearchTerm
