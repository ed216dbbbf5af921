import TranscriptSearch.Proofs.Json.LongerLiterals

namespace TranscriptSearch.Json

section Lists

variable {readItem : (cs : List Char) → Option (Value × Rest cs)} {cs rest : List Char}

theorem readItem_skipSpace_append (hitem : IsSteady readItem) {item : Value}
    (h : plain (readItem (skipSpace cs)) = some (item, rest)) (hrest : rest ≠ [])
    (more : List Char) :
    plain (readItem (skipSpace (cs ++ more))) = some (item, rest ++ more) := by
  have hcs : skipSpace cs ≠ [] := by
    intro hnil
    rw [hnil, plain_of_nil] at h
    exact absurd h nofun
  rw [skipSpace_append hcs]
  exact hitem h hrest more

theorem plain_readItems (readItem : (cs : List Char) → Option (Value × Rest cs))
    (cs : List Char) :
    plain (readItems readItem cs) = (plain (readItem (skipSpace cs))).bind fun (item, rest) =>
      match skipSpace rest with
      | ']' :: after => some ([item], after)
      | ',' :: after =>
        (plain (readItems readItem after)).map fun (items, rest) => (item :: items, rest)
      | _ => none := by
  rw [readItems]
  cases readItem (skipSpace cs) with
  | none => rfl
  | some read =>
      simp only [plain, Option.map_some, Option.bind_some]
      split
      · next after hend => simp only [hend, Option.map_some]
      · next after hcomma =>
          simp only [hcomma]
          cases readItems readItem after with
          | none => rfl
          | some => rfl
      · next hend hcomma =>
          split
          · next after heq => exact absurd heq (hend after)
          · next after heq => exact absurd heq (hcomma after)
          · rfl

theorem readItems_append (hitem : IsSteady readItem) {items : List Value}
    (h : plain (readItems readItem cs) = some (items, rest)) (more : List Char) :
    plain (readItems readItem (cs ++ more)) = some (items, rest ++ more) := by
  fun_induction readItems readItem cs generalizing items rest with
  | case1 => exact absurd h nofun
  | case2 cs item between hread after hend =>
      obtain ⟨rfl, rfl⟩ := Prod.mk.inj (Option.some.inj h)
      have hmore := readItem_skipSpace_append hitem (congrArg plain hread)
        (ne_nil_of_skipSpace_eq_cons hend) more
      simp only [plain_readItems readItem (cs ++ more), hmore, Option.bind_some,
        skipSpace_append_of_eq_cons hend]
  | case3 cs item between hread after hcomma hlt ih =>
      obtain ⟨_, hmap, heq⟩ := Option.map_eq_some_iff.mp h
      obtain ⟨⟨items, last⟩, hitems, rfl⟩ := Option.map_eq_some_iff.mp hmap
      obtain ⟨rfl, rfl⟩ := Prod.mk.inj heq
      have hmore := readItem_skipSpace_append hitem (congrArg plain hread)
        (ne_nil_of_skipSpace_eq_cons hcomma) more
      simp only [plain_readItems readItem (cs ++ more), hmore, Option.bind_some,
        skipSpace_append_of_eq_cons hcomma, ih (congrArg plain hitems), Option.map_some]
      rfl
  | case4 => exact absurd h nofun

theorem skipSpace_ne_nil_of_readItems {items : List Value}
    (h : plain (readItems readItem cs) = some (items, rest)) : skipSpace cs ≠ [] := by
  intro hnil
  rw [plain_readItems, hnil, plain_of_nil] at h
  exact absurd h nofun

theorem plain_readMember (readItem : (cs : List Char) → Option (Value × Rest cs))
    (cs : List Char) :
    plain (readMember readItem cs) =
      match skipSpace cs with
      | '"' :: rest =>
        (plain (readChars rest)).bind fun (key, rest) =>
          match skipSpace rest with
          | ':' :: rest =>
            (plain (readItem (skipSpace rest))).map fun (value, rest) =>
              ((.ofList key, value), rest)
          | _ => none
      | _ => none := by
  rw [readMember]
  split
  · next rest hquote =>
      simp only [hquote]
      cases readChars rest with
      | none => rfl
      | some key =>
          simp only [plain, Option.map_some, Option.bind_some]
          split
          · next rest hcolon =>
              simp only [hcolon]
              cases readItem (skipSpace rest) with
              | none => rfl
              | some => rfl
          · next hcolon =>
              split
              · next rest heq => exact absurd heq (hcolon rest)
              · rfl
  · next hquote =>
      split
      · next rest heq => exact absurd heq (hquote rest)
      · rfl

theorem isSteady_readMember (hitem : IsSteady readItem) : IsSteady (readMember readItem) := by
  intro cs member rest h hrest more
  rw [plain_readMember] at h
  split at h
  · next tail hquote =>
      obtain ⟨⟨key, after⟩, hkey, h⟩ := Option.bind_eq_some_iff.mp h
      dsimp only at h
      split at h
      · next last hcolon =>
          obtain ⟨⟨value, _⟩, hvalue, heq⟩ := Option.map_eq_some_iff.mp h
          obtain ⟨rfl, rfl⟩ := Prod.mk.inj heq
          have hmore := readItem_skipSpace_append hitem hvalue hrest more
          simp only [plain_readMember, skipSpace_append_of_eq_cons hquote, readChars_append hkey,
            Option.bind_some, skipSpace_append_of_eq_cons hcolon, hmore, Option.map_some]
      · exact absurd h nofun
  · exact absurd h nofun

theorem plain_readMembers (readItem : (cs : List Char) → Option (Value × Rest cs))
    (cs : List Char) :
    plain (readMembers readItem cs) = (plain (readMember readItem cs)).bind fun (member, rest) =>
      match skipSpace rest with
      | '\x7d' :: after => some ([member], after)
      | ',' :: after =>
        (plain (readMembers readItem after)).map fun (members, rest) => (member :: members, rest)
      | _ => none := by
  rw [readMembers]
  cases readMember readItem cs with
  | none => rfl
  | some read =>
      simp only [plain, Option.map_some, Option.bind_some]
      split
      · next after hend => simp only [hend, Option.map_some]
      · next after hcomma =>
          simp only [hcomma]
          cases readMembers readItem after with
          | none => rfl
          | some => rfl
      · next hend hcomma =>
          split
          · next after heq => exact absurd heq (hend after)
          · next after heq => exact absurd heq (hcomma after)
          · rfl

theorem readMembers_append (hitem : IsSteady readItem) {members : List (String × Value)}
    (h : plain (readMembers readItem cs) = some (members, rest)) (more : List Char) :
    plain (readMembers readItem (cs ++ more)) = some (members, rest ++ more) := by
  fun_induction readMembers readItem cs generalizing members rest with
  | case1 => exact absurd h nofun
  | case2 cs member between hread after hend =>
      obtain ⟨rfl, rfl⟩ := Prod.mk.inj (Option.some.inj h)
      have hmore := isSteady_readMember hitem (congrArg plain hread)
        (ne_nil_of_skipSpace_eq_cons hend) more
      simp only [plain_readMembers readItem (cs ++ more), hmore, Option.bind_some,
        skipSpace_append_of_eq_cons hend]
  | case3 cs member between hread after hcomma hlt ih =>
      obtain ⟨_, hmap, heq⟩ := Option.map_eq_some_iff.mp h
      obtain ⟨⟨members, last⟩, hmembers, rfl⟩ := Option.map_eq_some_iff.mp hmap
      obtain ⟨rfl, rfl⟩ := Prod.mk.inj heq
      have hmore := isSteady_readMember hitem (congrArg plain hread)
        (ne_nil_of_skipSpace_eq_cons hcomma) more
      simp only [plain_readMembers readItem (cs ++ more), hmore, Option.bind_some,
        skipSpace_append_of_eq_cons hcomma, ih (congrArg plain hmembers), Option.map_some]
      rfl
  | case4 => exact absurd h nofun

theorem skipSpace_ne_nil_of_readMembers {members : List (String × Value)}
    (h : plain (readMembers readItem cs) = some (members, rest)) : skipSpace cs ≠ [] := by
  intro hnil
  rw [plain_readMembers, plain_readMember, hnil] at h
  exact absurd h nofun

end Lists

section Value

variable {depth : Nat} {cs rest : List Char} {value : Value}

/-- What is read by the first character of a value. -/
structure ReadsByFirst (depth : Nat) (cs : List Char) : Prop where
  string : plain (readValue depth ('"' :: cs)) =
    (plain (readChars cs)).map fun (text, after) => (.string (.ofList text), after)
  emptyArray : ∀ after, skipSpace cs = ']' :: after →
    plain (readValue (depth + 1) ('[' :: cs)) = some (.array [], after)
  array : (∀ after, skipSpace cs ≠ ']' :: after) →
    plain (readValue (depth + 1) ('[' :: cs)) =
      (plain (readItems (readValue depth) cs)).map fun (items, after) => (.array items, after)
  emptyObject : ∀ after, skipSpace cs = '\x7d' :: after →
    plain (readValue (depth + 1) ('\x7b' :: cs)) = some (.object [], after)
  object : (∀ after, skipSpace cs ≠ '\x7d' :: after) →
    plain (readValue (depth + 1) ('\x7b' :: cs)) =
      (plain (readMembers (readValue depth) cs)).map
        fun (members, after) => (.object (sortMembers members), after)
  number : ∀ c, c ≠ 'n' → c ≠ 't' → c ≠ 'f' → c ≠ '"' → c ≠ '[' → c ≠ '\x7b' →
    plain (readValue depth (c :: cs)) =
      (plain (readNumber (c :: cs))).map fun (number, after) => (.number number, after)

theorem readsByFirst (depth : Nat) (cs : List Char) : ReadsByFirst depth cs where
  string := by
    rw [readValue]
    cases readChars cs with
    | none => rfl
    | some => rfl
  emptyArray after h := by
    rw [readValue]
    dsimp only
    split
    · next heq =>
        rw [h] at heq
        rw [(List.cons.inj heq).2]
        rfl
    · next hnot => exact absurd h (hnot after)
  array h := by
    rw [readValue]
    dsimp only
    split
    · next after heq => exact absurd heq (h after)
    · cases readItems (readValue depth) cs with
      | none => rfl
      | some => rfl
  emptyObject after h := by
    rw [readValue]
    dsimp only
    split
    · next heq =>
        rw [h] at heq
        rw [(List.cons.inj heq).2]
        rfl
    · next hnot => exact absurd h (hnot after)
  object h := by
    rw [readValue]
    dsimp only
    split
    · next after heq => exact absurd heq (h after)
    · cases readMembers (readValue depth) cs with
      | none => rfl
      | some => rfl
  number c hn ht hf hquote hbracket hbrace := by
    rw [readValue]
    · cases readNumber (c :: cs) with
      | none => rfl
      | some => rfl
    all_goals assumption

/-- A value ends where it is complete, unless it is a number. -/
theorem readValue_append_of_isSteady (hdepth : ∀ inner < depth, IsSteady (readValue inner))
    (h : plain (readValue depth cs) = some (value, rest))
    (hend : rest ≠ [] ∨ ∀ number, value ≠ .number number) (more : List Char) :
    plain (readValue depth (cs ++ more)) = some (value, rest ++ more) := by
  fun_cases readValue depth cs with
  | case1 | case6 | case9 =>
      rw [readValue] at h
      exact absurd h nofun
  | case2 | case3 | case4 =>
      rw [readValue] at h
      rw [List.cons_append, readValue]
      exact readWord_append _ h more
  | case5 =>
      rw [(readsByFirst _ _).string] at h
      obtain ⟨⟨text, _⟩, hchars, heq⟩ := Option.map_eq_some_iff.mp h
      obtain ⟨rfl, rfl⟩ := Prod.mk.inj heq
      rw [List.cons_append, (readsByFirst _ _).string, readChars_append hchars]
      rfl
  | case7 tail depth after hbracket =>
      rw [Nat.succ_eq_add_one, (readsByFirst _ _).emptyArray after hbracket] at h
      obtain ⟨rfl, rfl⟩ := Prod.mk.inj (Option.some.inj h)
      exact (readsByFirst _ _).emptyArray _ (skipSpace_append_of_eq_cons hbracket more)
  | case8 tail depth hbracket =>
      -- An item leaves at least what closes the array, so that it may well be a number.
      rw [Nat.succ_eq_add_one, (readsByFirst _ _).array hbracket] at h
      obtain ⟨⟨items, _⟩, hitems, heq⟩ := Option.map_eq_some_iff.mp h
      obtain ⟨rfl, rfl⟩ := Prod.mk.inj heq
      have hspace := skipSpace_ne_nil_of_readItems hitems
      rw [List.cons_append, Nat.succ_eq_add_one,
        (readsByFirst _ _).array (skipSpace_append_ne_cons hspace hbracket more),
        readItems_append (hdepth depth (Nat.lt_succ_self depth)) hitems]
      rfl
  | case10 tail depth after hbrace =>
      rw [Nat.succ_eq_add_one, (readsByFirst _ _).emptyObject after hbrace] at h
      obtain ⟨rfl, rfl⟩ := Prod.mk.inj (Option.some.inj h)
      exact (readsByFirst _ _).emptyObject _ (skipSpace_append_of_eq_cons hbrace more)
  | case11 tail depth hbrace =>
      rw [Nat.succ_eq_add_one, (readsByFirst _ _).object hbrace] at h
      obtain ⟨⟨members, _⟩, hmembers, heq⟩ := Option.map_eq_some_iff.mp h
      obtain ⟨rfl, rfl⟩ := Prod.mk.inj heq
      have hspace := skipSpace_ne_nil_of_readMembers hmembers
      rw [List.cons_append, Nat.succ_eq_add_one,
        (readsByFirst _ _).object (skipSpace_append_ne_cons hspace hbrace more),
        readMembers_append (hdepth depth (Nat.lt_succ_self depth)) hmembers]
      rfl
  | case12 _ c tail hn ht hf hquote hbracket hbrace =>
      rw [(readsByFirst _ _).number c hn ht hf hquote hbracket hbrace] at h
      obtain ⟨⟨number, _⟩, hnumber, heq⟩ := Option.map_eq_some_iff.mp h
      obtain ⟨rfl, rfl⟩ := Prod.mk.inj heq
      have hrest := hend.resolve_right fun hnot => hnot number rfl
      have hmore := isSteady_readNumber hnumber hrest more
      rw [List.cons_append] at hmore
      rw [List.cons_append, (readsByFirst _ _).number c hn ht hf hquote hbracket hbrace, hmore]
      rfl

theorem isSteady_readValue (depth : Nat) : IsSteady (readValue depth) := by
  induction depth using Nat.strongRecOn with
  | _ depth ih =>
      intro cs value rest h hrest more
      exact readValue_append_of_isSteady ih h (.inl hrest) more

theorem readValue_append (h : plain (readValue depth cs) = some (value, rest))
    (hvalue : ∀ number, value ≠ .number number) (more : List Char) :
    plain (readValue depth (cs ++ more)) = some (value, rest ++ more) :=
  readValue_append_of_isSteady (fun inner _ => isSteady_readValue inner) h (.inr hvalue) more

end Value

theorem parse?_eq_some_iff {text : String} {value : Value} :
    parse? text = some value ↔
      ∃ rest, plain (readValue maxDepth (skipSpace text.toList)) = some (value, rest) ∧
        skipSpace rest = [] := by
  rw [parse?]
  cases readValue maxDepth (skipSpace text.toList) with
  | none => exact iff_of_false nofun fun ⟨_, hread, _⟩ => absurd hread nofun
  | some read =>
      constructor
      · intro h
        dsimp only at h
        split at h
        · next hrest =>
            obtain rfl := Option.some.inj h
            exact ⟨read.2.1, rfl, hrest⟩
        · exact absurd h nofun
      · rintro ⟨rest, hread, hrest⟩
        obtain ⟨rfl, rfl⟩ := Prod.mk.inj (Option.some.inj hread)
        exact if_pos hrest

theorem parse?_append_eq_none {cs more : List Char} {value : Value}
    (h : parse? (.ofList cs) = some value) (hvalue : ∀ number, value ≠ .number number)
    (hmore : skipSpace more ≠ []) : parse? (.ofList (cs ++ more)) = none := by
  obtain ⟨rest, hread, hrest⟩ := parse?_eq_some_iff.mp h
  rw [String.toList_ofList] at hread
  have hcs : skipSpace cs ≠ [] := by
    intro hnil
    rw [hnil, plain_of_nil] at hread
    exact absurd hread nofun
  rw [Option.eq_none_iff_forall_ne_some]
  intro other hother
  obtain ⟨left, hlong, hleft⟩ := parse?_eq_some_iff.mp hother
  rw [String.toList_ofList, skipSpace_append hcs, readValue_append hread hvalue] at hlong
  obtain ⟨-, rfl⟩ := Prod.mk.inj (Option.some.inj hlong)
  rw [skipSpace_append_of_eq_nil hrest] at hleft
  exact hmore hleft

end TranscriptSearch.Json
