import TranscriptSearch.Json.Parser

namespace TranscriptSearch.Json

variable {α : Type}

/-- What has been read and what is left, whatever is known of its length. -/
def plain {p : List Char → Prop} (read : Option (α × { rest // p rest })) :
    Option (α × List Char) :=
  read.map fun (value, rest) => (value, rest.1)

/-- Whether a reader that leaves something of a text takes the same from longer texts. -/
def IsSteady {p : List Char → List Char → Prop}
    (read : (cs : List Char) → Option (α × { rest // p cs rest })) : Prop :=
  ∀ {cs value rest}, plain (read cs) = some (value, rest) → rest ≠ [] →
    ∀ more, plain (read (cs ++ more)) = some (value, rest ++ more)

theorem plain_of_nil (read : Option (α × Rest [])) : plain read = none := by
  cases read with
  | none => rfl
  | some read => exact absurd read.2.2 (Nat.not_lt_zero _)

theorem skipSpace_append {cs : List Char} (h : skipSpace cs ≠ []) (more : List Char) :
    skipSpace (cs ++ more) = skipSpace cs ++ more := by
  rw [skipSpace, List.dropWhile_append, if_neg]
  · rfl
  · rw [List.isEmpty_iff]
    exact h

theorem skipSpace_append_of_eq_nil {cs : List Char} (h : skipSpace cs = []) (more : List Char) :
    skipSpace (cs ++ more) = skipSpace more := by
  rw [skipSpace, List.dropWhile_append, if_pos]
  · rfl
  · rw [List.isEmpty_iff]
    exact h

theorem skipSpace_append_of_eq_cons {cs tail : List Char} {c : Char}
    (h : skipSpace cs = c :: tail)
    (more : List Char) : skipSpace (cs ++ more) = c :: (tail ++ more) := by
  rw [skipSpace_append (by simp [h]), h, List.cons_append]

theorem skipSpace_append_ne_cons {cs : List Char} {c : Char} (h : skipSpace cs ≠ [])
    (hc : ∀ tail, skipSpace cs ≠ c :: tail) (more tail : List Char) :
    skipSpace (cs ++ more) ≠ c :: tail := by
  obtain ⟨first, after, hfirst⟩ := List.exists_cons_of_ne_nil h
  rw [skipSpace_append_of_eq_cons hfirst]
  intro heq
  rw [(List.cons.inj heq).1] at hfirst
  exact hc after hfirst

theorem ne_nil_of_skipSpace_eq_cons {cs tail : List Char} {c : Char}
    (h : skipSpace cs = c :: tail) :
    cs ≠ [] := by
  rintro rfl
  exact List.cons_ne_nil c tail h.symm

section Chars

variable {a b c d e f g h : Char} {code : Nat}

theorem plain_readChars_pair (hcode : hexValues? a b c d = some code)
    (hhigh : 0xD800 ≤ code ∧ code < 0xDC00) (rest : List Char) :
    plain (readChars
      ('\\' :: 'u' :: a :: b :: c :: d :: '\\' :: 'u' :: e :: f :: g :: h :: rest)) =
      (hexValues? e f g h).bind fun low => (plain (readChars rest)).bind fun (cs, rest) =>
        if 0xDC00 ≤ low ∧ low < 0xE000 then
          some (Char.ofNat (0x10000 + (code - 0xD800) * 0x400 + (low - 0xDC00)) :: cs, rest)
        else none := by
  rw [readChars.eq_2, hcode]
  simp only [if_pos hhigh]
  cases hexValues? e f g h with
  | none => rfl
  | some low =>
      cases readChars rest with
      | none => rfl
      | some read =>
          simp only [plain, Option.map_some, Option.bind_some]
          split
          · rfl
          · rfl

theorem plain_readChars_code (hcode : hexValues? a b c d = some code)
    (hhigh : ¬(0xD800 ≤ code ∧ code < 0xDC00)) (hlow : ¬(0xDC00 ≤ code ∧ code < 0xE000))
    (rest : List Char) :
    plain (readChars ('\\' :: 'u' :: a :: b :: c :: d :: rest)) =
      (plain (readChars rest)).map fun (cs, rest) => (Char.ofNat code :: cs, rest) := by
  rw [readChars.eq_2, hcode]
  simp only [if_neg hhigh, if_neg hlow]
  cases readChars rest with
  | none => rfl
  | some => rfl

theorem plain_readChars_escape (hc : c ≠ 'u') (rest : List Char) :
    plain (readChars ('\\' :: c :: rest)) = (simpleEscape? c).bind fun escaped =>
      (plain (readChars rest)).map fun (cs, rest) => (escaped :: cs, rest) := by
  rw [readChars.eq_3 c rest fun _ _ _ _ _ hu => absurd hu hc]
  cases simpleEscape? c with
  | none => rfl
  | some =>
      cases readChars rest with
      | none => rfl
      | some => rfl

theorem plain_readChars_cons (hquote : c ≠ '"') (hescape : c ≠ '\\') (hcontrol : ¬ c.toNat < 0x20)
    (rest : List Char) :
    plain (readChars (c :: rest)) =
      (plain (readChars rest)).map fun (cs, rest) => (c :: cs, rest) := by
  rw [readChars.eq_4 c rest hquote (fun _ _ _ _ _ h => absurd h hescape)
    (fun _ _ h => absurd h hescape), if_neg hcontrol]
  cases readChars rest with
  | none => rfl
  | some => rfl

end Chars

theorem readChars_append {cs text rest : List Char} (h : plain (readChars cs) = some (text, rest))
    (more : List Char) : plain (readChars (cs ++ more)) = some (text, rest ++ more) := by
  fun_induction readChars cs generalizing text rest with
  | case1 tail =>
      obtain ⟨rfl, rfl⟩ := Prod.mk.inj (Option.some.inj h)
      rfl
  | case3 a b c d code hcode hhigh e f g i tail low chars after hread hlow hrange ih =>
      obtain ⟨rfl, rfl⟩ := Prod.mk.inj (Option.some.inj h)
      simp only [List.cons_append]
      rw [plain_readChars_pair hcode hhigh, hlow, Option.bind_some, ih (congrArg plain hread),
        Option.bind_some]
      exact if_pos hrange
  | case8 a b c d tail code hcode hhigh hlow ih =>
      obtain ⟨_, hmap, heq⟩ := Option.map_eq_some_iff.mp h
      obtain ⟨⟨chars, after⟩, hread, rfl⟩ := Option.map_eq_some_iff.mp hmap
      obtain ⟨rfl, rfl⟩ := Prod.mk.inj heq
      simp only [List.cons_append]
      rw [plain_readChars_code hcode hhigh hlow, ih (congrArg plain hread)]
      rfl
  | case9 c tail hnotu escaped chars after hread hescape ih =>
      obtain ⟨rfl, rfl⟩ := Prod.mk.inj (Option.some.inj h)
      have hc : c ≠ 'u' := by
        rintro rfl
        exact absurd hescape nofun
      simp only [List.cons_append]
      rw [plain_readChars_escape hc, hescape, Option.bind_some, ih (congrArg plain hread)]
      rfl
  | case12 c tail hquote _ hescape hcontrol ih =>
      obtain ⟨_, hmap, heq⟩ := Option.map_eq_some_iff.mp h
      obtain ⟨⟨chars, after⟩, hread, rfl⟩ := Option.map_eq_some_iff.mp hmap
      obtain ⟨rfl, rfl⟩ := Prod.mk.inj heq
      -- A backslash that begins no escape ends the text, so no closing quote is left to be read.
      have hc : c ≠ '\\' := by
        intro hc
        cases tail with
        | nil => exact absurd hread nofun
        | cons next tail => exact hescape next tail hc rfl
      rw [List.cons_append, plain_readChars_cons hquote hc hcontrol, ih (congrArg plain hread)]
      rfl
  | _ => exact absurd h nofun

theorem plain_readDigits (c : Char) (cs : List Char) :
    plain (readDigits (c :: cs)) =
      if c.isDigit then some (c :: cs.takeWhile Char.isDigit, cs.dropWhile Char.isDigit)
      else none := by
  rw [readDigits]
  split
  · rfl
  · rfl

theorem isSteady_readDigits : IsSteady readDigits := by
  intro cs digits rest h hrest more
  cases cs with
  | nil => exact absurd h nofun
  | cons c cs =>
      rw [plain_readDigits] at h
      rw [List.cons_append, plain_readDigits]
      split at h
      · next hdigit =>
          obtain ⟨rfl, rfl⟩ := Prod.mk.inj (Option.some.inj h)
          have hlength : (cs.takeWhile Char.isDigit).length ≠ cs.length := by
            have hsplit := congrArg List.length
              (List.takeWhile_append_dropWhile (p := Char.isDigit) (l := cs))
            have hleft := List.length_pos_iff.mpr hrest
            rw [List.length_append] at hsplit
            omega
          rw [if_pos hdigit, List.takeWhile_append, if_neg hlength, List.dropWhile_append, if_neg]
          rwa [List.isEmpty_iff]
      · exact absurd h nofun

theorem plain_readFraction_point (cs : List Char) :
    plain (readFraction ('.' :: cs)) =
      (plain (readDigits cs)).map fun (digits, rest) => (some digits, rest) := by
  rw [readFraction]
  cases readDigits cs with
  | none => rfl
  | some => rfl

theorem plain_readFraction {cs : List Char} (h : cs.head? ≠ some '.') :
    plain (readFraction cs) = some (none, cs) := by
  rw [readFraction]
  · rfl
  · rintro tail rfl
    exact h rfl

theorem isSteady_readFraction : IsSteady readFraction := by
  intro cs fraction rest h hrest more
  by_cases hpoint : cs.head? = some '.'
  · obtain ⟨tail, rfl⟩ := List.head?_eq_some_iff.mp hpoint
    rw [plain_readFraction_point] at h
    obtain ⟨⟨digits, after⟩, hdigits, heq⟩ := Option.map_eq_some_iff.mp h
    obtain ⟨rfl, rfl⟩ := Prod.mk.inj heq
    rw [List.cons_append, plain_readFraction_point, isSteady_readDigits hdigits hrest]
    rfl
  · rw [plain_readFraction hpoint] at h
    obtain ⟨rfl, rfl⟩ := Prod.mk.inj (Option.some.inj h)
    obtain ⟨c, tail, rfl⟩ := List.exists_cons_of_ne_nil hrest
    exact plain_readFraction hpoint

theorem readSign_cons {c : Char} (hminus : c ≠ '-') (hplus : c ≠ '+') (cs : List Char) :
    readSign (c :: cs) = (1, ⟨c :: cs, Nat.le_refl _⟩) := by
  rw [readSign.eq_3]
  · exact fun _ heq => hminus (List.cons.inj heq).1
  · exact fun _ heq => hplus (List.cons.inj heq).1

theorem readSign_append {cs : List Char} (h : cs ≠ []) (more : List Char) :
    (readSign (cs ++ more)).1 = (readSign cs).1 ∧
      (readSign (cs ++ more)).2.1 = (readSign cs).2.1 ++ more := by
  obtain ⟨c, tail, rfl⟩ := List.exists_cons_of_ne_nil h
  by_cases hminus : c = '-'
  · subst hminus
    exact ⟨rfl, rfl⟩
  · by_cases hplus : c = '+'
    · subst hplus
      exact ⟨rfl, rfl⟩
    · rw [List.cons_append, readSign_cons hminus hplus, readSign_cons hminus hplus]
      exact ⟨rfl, rfl⟩

theorem plain_readExponent_mark {c : Char} (hc : c = 'e' ∨ c = 'E') (cs : List Char) :
    plain (readExponent (c :: cs)) = (plain (readDigits (readSign cs).2.1)).map
      fun (digits, rest) => (some ((readSign cs).1 * natOfDigits digits), rest) := by
  rw [readExponent, if_pos hc]
  obtain ⟨sign, tail⟩ := readSign cs
  dsimp only
  cases readDigits tail.1 with
  | none => rfl
  | some => rfl

theorem plain_readExponent {c : Char} (hc : ¬(c = 'e' ∨ c = 'E')) (cs : List Char) :
    plain (readExponent (c :: cs)) = some (none, c :: cs) := by
  rw [readExponent, if_neg hc]
  rfl

theorem isSteady_readExponent : IsSteady readExponent := by
  intro cs exponent rest h hrest more
  cases cs with
  | nil =>
      obtain ⟨rfl, rfl⟩ := Prod.mk.inj (Option.some.inj h)
      exact absurd rfl hrest
  | cons c cs =>
      by_cases hc : c = 'e' ∨ c = 'E'
      · rw [plain_readExponent_mark hc] at h
        obtain ⟨⟨digits, after⟩, hdigits, heq⟩ := Option.map_eq_some_iff.mp h
        obtain ⟨rfl, rfl⟩ := Prod.mk.inj heq
        have hcs : cs ≠ [] := by
          rintro rfl
          exact absurd hdigits nofun
        obtain ⟨hsign, htail⟩ := readSign_append hcs more
        rw [List.cons_append, plain_readExponent_mark hc, hsign, htail,
          isSteady_readDigits hdigits hrest]
        rfl
      · rw [plain_readExponent hc] at h
        obtain ⟨rfl, rfl⟩ := Prod.mk.inj (Option.some.inj h)
        rw [List.cons_append, plain_readExponent hc]

theorem plain_readUnsigned (negative : Bool) (cs : List Char) :
    plain (readUnsigned negative cs) = (plain (readDigits cs)).bind fun (whole, rest) =>
      if hasLeadingZero whole then none
      else (plain (readFraction rest)).bind fun (fraction, rest) =>
        (plain (readExponent rest)).map fun (exponent, rest) =>
          (⟨negative, whole, fraction, exponent⟩, rest) := by
  rw [readUnsigned]
  cases readDigits cs with
  | none => rfl
  | some digits =>
      simp only [plain, Option.map_some, Option.bind_some]
      split
      · rfl
      · cases readFraction digits.2.1 with
        | none => rfl
        | some fraction =>
            simp only [Option.map_some, Option.bind_some]
            cases readExponent fraction.2.1 with
            | none => rfl
            | some => rfl

theorem isSteady_readUnsigned (negative : Bool) : IsSteady (readUnsigned negative) := by
  intro cs literal rest h hrest more
  rw [plain_readUnsigned] at h ⊢
  obtain ⟨⟨whole, rest₁⟩, hwhole, h⟩ := Option.bind_eq_some_iff.mp h
  dsimp only at h
  split at h
  · exact absurd h nofun
  · next hzero =>
      obtain ⟨⟨fraction, rest₂⟩, hfraction, h⟩ := Option.bind_eq_some_iff.mp h
      obtain ⟨⟨exponent, rest₃⟩, hexponent, heq⟩ := Option.map_eq_some_iff.mp h
      obtain ⟨rfl, rfl⟩ := Prod.mk.inj heq
      have hrest₂ : rest₂ ≠ [] := by
        rintro rfl
        exact hrest (Prod.mk.inj (Option.some.inj hexponent)).2.symm
      have hrest₁ : rest₁ ≠ [] := by
        rintro rfl
        exact hrest₂ (Prod.mk.inj (Option.some.inj hfraction)).2.symm
      simp only [isSteady_readDigits hwhole hrest₁, Option.bind_some, if_neg hzero,
        isSteady_readFraction hfraction hrest₂, isSteady_readExponent hexponent hrest,
        Option.map_some]

theorem plain_readNumber_minus (cs : List Char) :
    plain (readNumber ('-' :: cs)) = (plain (readUnsigned true cs)).bind
      fun (literal, rest) => literal.value?.map (·, rest) := by
  rw [readNumber]
  cases readUnsigned true cs with
  | none => rfl
  | some read =>
      simp only [plain, Option.map_some, Option.bind_some]
      cases read.1.value? with
      | none => rfl
      | some => rfl

theorem plain_readNumber {cs : List Char} (h : cs.head? ≠ some '-') :
    plain (readNumber cs) = (plain (readUnsigned false cs)).bind
      fun (literal, rest) => literal.value?.map (·, rest) := by
  rw [readNumber.eq_2]
  · cases readUnsigned false cs with
    | none => rfl
    | some read =>
        simp only [plain, Option.map_some, Option.bind_some]
        cases read.1.value? with
        | none => rfl
        | some => rfl
  · rintro tail rfl
    exact h rfl

theorem isSteady_readNumber : IsSteady readNumber := by
  intro cs number rest h hrest more
  have hvalue : ∀ negative tail, (plain (readUnsigned negative tail)).bind
      (fun (literal, rest) => literal.value?.map (·, rest)) = some (number, rest) →
      (plain (readUnsigned negative (tail ++ more))).bind
        (fun (literal, rest) => literal.value?.map (·, rest)) = some (number, rest ++ more) := by
    intro negative tail h
    obtain ⟨⟨literal, after⟩, hliteral, h⟩ := Option.bind_eq_some_iff.mp h
    obtain ⟨value, hvalue, heq⟩ := Option.map_eq_some_iff.mp h
    obtain ⟨rfl, rfl⟩ := Prod.mk.inj heq
    simp only [isSteady_readUnsigned negative hliteral hrest, Option.bind_some, hvalue,
      Option.map_some]
  by_cases hminus : cs.head? = some '-'
  · obtain ⟨tail, rfl⟩ := List.head?_eq_some_iff.mp hminus
    rw [plain_readNumber_minus] at h
    rw [List.cons_append, plain_readNumber_minus]
    exact hvalue true tail h
  · rw [plain_readNumber hminus] at h
    rw [plain_readNumber]
    · exact hvalue false cs h
    · cases cs with
      | nil => exact absurd h nofun
      | cons c tail => exact hminus

theorem readWord_append {word cs rest : List Char} (hword : word ≠ []) {value result : α}
    (h : plain ((readWord word cs hword).map (value, ·)) = some (result, rest))
    (more : List Char) :
    plain ((readWord word (cs ++ more) hword).map (value, ·)) = some (result, rest ++ more) := by
  rw [readWord] at h
  split at h
  · next hprefix =>
      have hcs := List.isPrefixOf_iff_prefix.mp hprefix
      obtain ⟨rfl, rfl⟩ := Prod.mk.inj (Option.some.inj h)
      rw [readWord, dif_pos (List.isPrefixOf_iff_prefix.mpr (hcs.trans (List.prefix_append _ _)))]
      exact congrArg (fun rest => some (value, rest))
        (List.drop_append_of_le_length hcs.length_le)
  · exact absurd h nofun

end TranscriptSearch.Json
