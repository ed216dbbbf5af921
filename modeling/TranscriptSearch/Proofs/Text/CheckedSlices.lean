import TranscriptSearch.Proofs.Text.Boundaries

namespace TranscriptSearch.Text

/-- The part of a text between two offsets, if both are boundaries and stand in this order. -/
def slice? (cs : List Char) (start stop : Nat) : Option (List Char) :=
  if start ≤ stop ∧ isBoundary cs start = true ∧ isBoundary cs stop = true then
    some (sliceBytes cs start stop)
  else none

/-- The offset of the first line break. -/
def firstBreak? : List Char → Option Nat
  | [] => none
  | c :: cs => if c = '\n' then some 0 else (firstBreak? cs).map (c.utf8Size + ·)

/-- The offset of the last line break. -/
def lastBreak? : List Char → Option Nat
  | [] => none
  | c :: cs =>
    match lastBreak? cs with
    | some offset => some (c.utf8Size + offset)
    | none => if c = '\n' then some 0 else none

/-- The boundary that is come to by going back from an offset. -/
def boundaryBefore (cs : List Char) : Nat → Nat
  | 0 => 0
  | n + 1 => if isBoundary cs (n + 1) then n + 1 else boundaryBefore cs n

/-- The boundary that is come to by going forward from an offset.  Behind the end of the text
there is none. -/
def boundaryFrom? (cs : List Char) (n : Nat) : Option Nat :=
  if isBoundary cs n then some n
  else if n < byteSize cs then boundaryFrom? cs (n + 1)
  else none
termination_by byteSize cs - n

@[simp] theorem byteSize_reverse (cs : List Char) : byteSize cs.reverse = byteSize cs := by
  induction cs with
  | nil => rfl
  | cons c cs ih => simp [ih, Nat.add_comm]

theorem slice?_append_append (before cs after : List Char) :
    slice? (before ++ (cs ++ after)) (byteSize before) (byteSize before + byteSize cs) =
      some cs := by
  rw [slice?, if_pos
    ⟨Nat.le_add_right _ _, isBoundary_append before _, isBoundary_append_append before cs after⟩,
    sliceBytes_append_append]

theorem slice?_append_left (cs after : List Char) :
    slice? (cs ++ after) 0 (byteSize cs) = some cs := by
  have hslice := slice?_append_append [] cs after
  rwa [byteSize_nil, Nat.zero_add, List.nil_append] at hslice

theorem slice?_append_right (before cs : List Char) :
    slice? (before ++ cs) (byteSize before) (byteSize (before ++ cs)) = some cs := by
  have hslice := slice?_append_append before cs []
  rwa [List.append_nil, ← byteSize_append] at hslice

theorem firstBreak?_of_not_mem {cs : List Char} (h : '\n' ∉ cs) : firstBreak? cs = none := by
  induction cs with
  | nil => rfl
  | cons c cs ih =>
      obtain ⟨hc, hcs⟩ := not_or.mp (mt List.mem_cons.mpr h)
      rw [firstBreak?, if_neg (Ne.symm hc), ih hcs, Option.map_none]

theorem firstBreak?_append {line : List Char} (h : '\n' ∉ line) (rest : List Char) :
    firstBreak? (line ++ '\n' :: rest) = some (byteSize line) := by
  induction line with
  | nil => rfl
  | cons c line ih =>
      obtain ⟨hc, hline⟩ := not_or.mp (mt List.mem_cons.mpr h)
      rw [List.cons_append, firstBreak?, if_neg (Ne.symm hc), ih hline]
      rfl

theorem lastBreak?_of_not_mem {cs : List Char} (h : '\n' ∉ cs) : lastBreak? cs = none := by
  induction cs with
  | nil => rfl
  | cons c cs ih =>
      obtain ⟨hc, hcs⟩ := not_or.mp (mt List.mem_cons.mpr h)
      simp only [lastBreak?, ih hcs, if_neg (Ne.symm hc)]

theorem lastBreak?_append {line : List Char} (h : '\n' ∉ line) (above : List Char) :
    lastBreak? (above ++ '\n' :: line) = some (byteSize above) := by
  induction above with
  | nil => simp [lastBreak?, lastBreak?_of_not_mem h]
  | cons c above ih => simp only [List.cons_append, lastBreak?, ih, byteSize_cons]

theorem boundaryBefore_eq {cs : List Char} {boundary n : Nat} (h : isBoundary cs boundary = true)
    (hle : boundary ≤ n) (hnone : ∀ k, boundary < k → isBoundary cs k = true → n < k) :
    boundaryBefore cs n = boundary := by
  induction n with
  | zero => exact (Nat.le_zero.mp hle).symm
  | succ n ih =>
      rcases Nat.lt_or_eq_of_le hle with hlt | heq
      · rw [boundaryBefore, if_neg fun hk => Nat.lt_irrefl _ (hnone (n + 1) hlt hk)]
        exact ih (Nat.le_of_lt_succ hlt) fun k hk hboundary =>
          Nat.lt_of_succ_lt (hnone k hk hboundary)
      · rw [boundaryBefore, ← heq, if_pos h]

theorem boundaryFrom?_eq {cs : List Char} {boundary n : Nat} (h : isBoundary cs boundary = true)
    (hsize : boundary ≤ byteSize cs) (hle : n ≤ boundary)
    (hnone : ∀ k, k < boundary → isBoundary cs k = true → k < n) :
    boundaryFrom? cs n = some boundary := by
  induction hdistance : boundary - n generalizing n with
  | zero =>
      obtain rfl : n = boundary := by omega
      rw [boundaryFrom?, if_pos h]
  | succ distance ih =>
      have hlt : n < boundary := by omega
      rw [boundaryFrom?, if_neg fun hn => Nat.lt_irrefl _ (hnone n hlt hn),
        if_pos (Nat.lt_of_lt_of_le hlt hsize)]
      exact ih hlt (fun k hk hboundary => Nat.lt_succ_of_lt (hnone k hk hboundary)) (by omega)

end TranscriptSearch.Text
