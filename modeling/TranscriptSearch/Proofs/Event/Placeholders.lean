import Mathlib.Data.List.Infix
import TranscriptSearch.Event.Template

namespace TranscriptSearch.Template

open Json (Value)

/-- The braces that a placeholder begins with. -/
def opening : List Char := ['\x7b', '\x7b']

/-- The braces that a placeholder ends with. -/
def closing : List Char := ['\x7d', '\x7d']

def placeholder (name : List Char) : List Char :=
  opening ++ (name ++ closing)

/-- What a placeholder is replaced by.  That of an unknown argument stays. -/
def replacement (arguments : Members) (name : List Char) : List Char :=
  match arguments.lookup (.ofList name) with
  | some value => argumentText value
  | none => placeholder name

section Pairs

variable {mark c : Char} {cs xs ys before after name : List Char}

theorem pair_prefix_cons_cons {a b : Char} : [mark, mark] <+: a :: b :: cs ↔
    a = mark ∧ b = mark := by
  simp [eq_comm]

theorem pair_infix_append_cons (hc : c ≠ mark) :
    [mark, mark] <:+: xs ++ c :: ys ↔ [mark, mark] <:+: xs ∨ [mark, mark] <:+: ys := by
  induction xs with
  | nil =>
      rw [List.nil_append, List.infix_cons_iff]
      simp [hc.symm]
  | cons x xs ih =>
      rw [List.cons_append, List.infix_cons_iff, ih, List.infix_cons_iff, or_assoc]
      cases xs with
      | nil => simp [hc.symm]
      | cons y xs => simp

theorem pair_infix_append (hlast : xs.getLast? ≠ some mark) :
    [mark, mark] <:+: xs ++ ys ↔ [mark, mark] <:+: xs ∨ [mark, mark] <:+: ys := by
  rcases List.eq_nil_or_concat xs with rfl | ⟨front, c, rfl⟩
  · simp
  · have hc : c ≠ mark := by simpa using hlast
    rw [List.concat_eq_append, List.append_assoc, List.singleton_append,
      pair_infix_append_cons hc, pair_infix_append_cons hc]
    simp

theorem getLast?_ne_of_not_pair_infix (h : ¬ [mark, mark] <:+: cs ++ [mark]) :
    cs.getLast? ≠ some mark := by
  intro hlast
  obtain ⟨front, rfl⟩ := List.getLast?_eq_some_iff.mp hlast
  exact h ⟨front, [], by simp⟩

theorem not_pair_infix_of_concat (h : ¬ [mark, mark] <:+: cs ++ [mark]) :
    ¬ [mark, mark] <:+: cs :=
  fun hpair => h (hpair.trans (List.prefix_append cs [mark]).isInfix)

theorem not_pair_infix_concat (h : mark ∉ cs) : ¬ [mark, mark] <:+: cs ++ [mark] := by
  intro hpair
  have hcount := hpair.sublist.count_le mark
  simp [List.count_eq_zero.mpr h] at hcount

theorem splitAtPair_append (h : ¬ [mark, mark] <:+: before ++ [mark]) (after : List Char) :
    splitAtPair mark (before ++ mark :: mark :: after) = some (before, after) := by
  induction before with
  | nil => simp [splitAtPair]
  | cons a before ih =>
      rw [List.cons_append, List.infix_cons_iff, not_or] at h
      cases before with
      | nil =>
          have ha : a ≠ mark := by simpa [eq_comm] using h.1
          have hrest := ih h.2
          rw [List.nil_append] at hrest
          simp [splitAtPair, ha]
      | cons b before =>
          have hpair := mt pair_prefix_cons_cons.mpr h.1
          have hrest := ih h.2
          rw [List.cons_append] at hrest
          rw [List.cons_append, List.cons_append, splitAtPair, if_neg hpair, hrest]
          rfl

theorem eq_append_of_splitAtPair (h : splitAtPair mark cs = some (before, after)) :
    cs = before ++ mark :: mark :: after ∧ ¬ [mark, mark] <:+: before ++ [mark] := by
  fun_induction splitAtPair mark cs generalizing before after with
  | case1 a b rest hpair =>
      obtain ⟨rfl, rfl⟩ := Prod.mk.inj (Option.some.inj h)
      refine ⟨by rw [hpair.1, hpair.2]; rfl, fun hinfix => ?_⟩
      have hlength := hinfix.length_le
      simp at hlength
  | case2 a b rest hpair ih =>
      obtain ⟨⟨before, after⟩, hsplit, heq⟩ := Option.map_eq_some_iff.mp h
      obtain ⟨rfl, rfl⟩ := Prod.mk.inj heq
      obtain ⟨hrest, hfirst⟩ := ih hsplit
      refine ⟨by rw [hrest]; rfl, fun hinfix => ?_⟩
      rw [List.cons_append, List.infix_cons_iff] at hinfix
      rcases hinfix with hbegins | hinfix
      · have hfront : a :: (before ++ [mark]) <+: a :: b :: rest :=
          ⟨mark :: after, by simp [hrest]⟩
        exact hpair (pair_prefix_cons_cons.mp (hbegins.trans hfront))
      · exact hfirst hinfix
  | case3 => simp at h

theorem splitAtPair_eq_none_iff : splitAtPair mark cs = none ↔ ¬ [mark, mark] <:+: cs := by
  fun_induction splitAtPair mark cs with
  | case1 a b rest hpair =>
      simp only [reduceCtorEq, false_iff, not_not]
      exact ⟨[], rest, by rw [hpair.1, hpair.2]; rfl⟩
  | case2 a b rest hpair ih =>
      rw [Option.map_eq_none_iff, ih, List.infix_cons_iff (a := a), not_or]
      exact ⟨fun h => ⟨mt pair_prefix_cons_cons.mp hpair, h⟩, And.right⟩
  | case3 cs hshort =>
      simp only [true_iff]
      intro hinfix
      have hlength := hinfix.length_le
      rcases cs with _ | ⟨a, _ | ⟨b, rest⟩⟩
      · simp at hlength
      · simp at hlength
      · exact hshort a b rest rfl

end Pairs

variable {arguments : Members} {before name : List Char}

theorem fill_of_text {text : List Char} (h : ¬ opening <:+: text) :
    fill arguments text = text := by
  rw [fill]
  split
  · rfl
  · next hopen => exact absurd hopen (by rw [splitAtPair_eq_none_iff.mpr h]; simp)

theorem fill_of_unclosed (hbefore : ¬ opening <:+: before ++ ['\x7b'])
    (hname : ¬ closing <:+: name) :
    fill arguments (before ++ (opening ++ name)) = before ++ (opening ++ name) := by
  have hsplit := splitAtPair_append hbefore name
  have hnone := splitAtPair_eq_none_iff.mpr hname
  rw [fill]
  split
  · rfl
  · next first rest hopen =>
      obtain ⟨rfl, rfl⟩ := Prod.mk.inj (Option.some.inj (hopen.symm.trans hsplit))
      split
      · rfl
      · next hclose => simp [hnone] at hclose

theorem fill_placeholder (hbefore : ¬ opening <:+: before ++ ['\x7b'])
    (hname : ¬ closing <:+: name ++ ['\x7d'])
    (after : List Char) : fill arguments (before ++ (placeholder name ++ after)) =
      before ++ (replacement arguments name ++ fill arguments after) := by
  have hopening := splitAtPair_append hbefore (name ++ (closing ++ after))
  have hclosing := splitAtPair_append hname after
  have hshape : before ++ (placeholder name ++ after) =
      before ++ '\x7b' :: '\x7b' :: (name ++ (closing ++ after)) := by
    simp [placeholder, opening]
  rw [hshape, fill]
  split
  · next hopen => simp [hopening] at hopen
  · next first rest hopen =>
      obtain ⟨rfl, rfl⟩ := Prod.mk.inj (Option.some.inj (hopen.symm.trans hopening))
      split
      · next hclose => simp [hclosing, closing] at hclose
      · next key more hclose =>
          obtain ⟨rfl, rfl⟩ := Prod.mk.inj (Option.some.inj (hclose.symm.trans hclosing))
          rw [List.append_assoc]
          rfl

theorem fill_placeholder_append (hname : ¬ closing <:+: name ++ ['\x7d']) (after : List Char) :
    fill arguments (placeholder name ++ after) =
      replacement arguments name ++ fill arguments after :=
  fill_placeholder (show ¬ opening <:+: [] ++ ['\x7b'] by decide) hname after

/-- The three ways in which a template goes on. -/
@[elab_as_elim]
theorem placeholder_induction {motive : List Char → Prop}
    (text : ∀ cs, ¬ opening <:+: cs → motive cs)
    (unclosed : ∀ before name, ¬ opening <:+: before ++ ['\x7b'] → ¬ closing <:+: name →
      motive (before ++ (opening ++ name)))
    (placeholder : ∀ before name after, ¬ opening <:+: before ++ ['\x7b'] →
      ¬ closing <:+: name ++ ['\x7d'] →
      motive after → motive (before ++ (placeholder name ++ after))) (template : List Char) :
    motive template := by
  induction hlength : template.length using Nat.strong_induction_on generalizing template with
  | _ size ih =>
      cases hopen : splitAtPair '\x7b' template with
      | none => exact text template (splitAtPair_eq_none_iff.mp hopen)
      | some parts =>
          obtain ⟨before, rest⟩ := parts
          obtain ⟨rfl, hbefore⟩ := eq_append_of_splitAtPair hopen
          cases hclose : splitAtPair '\x7d' rest with
          | none => exact unclosed before rest hbefore (splitAtPair_eq_none_iff.mp hclose)
          | some parts =>
              obtain ⟨name, after⟩ := parts
              obtain ⟨rfl, hname⟩ := eq_append_of_splitAtPair hclose
              have hafter : motive after := ih after.length (by simp at hlength; omega) after rfl
              have hwhole := placeholder before name after hbefore hname hafter
              simpa [Template.placeholder, opening, closing] using hwhole

/-- Whether each opening pair of a template goes with a closing pair of it. -/
inductive IsClosed : List Char → Prop
  | text {cs : List Char} : ¬ opening <:+: cs → IsClosed cs
  | cons {before name after : List Char} : ¬ opening <:+: before ++ ['\x7b'] →
      ¬ closing <:+: name ++ ['\x7d'] → IsClosed after →
      IsClosed (before ++ (placeholder name ++ after))

theorem IsClosed.fill_append {front : List Char} (h : IsClosed front)
    (hlast : front.getLast? ≠ some '\x7b') (rest : List Char) :
    fill arguments (front ++ rest) = fill arguments front ++ fill arguments rest := by
  induction h with
  | @text front htext =>
      have hjoined : ∀ cs, ¬ opening <:+: cs → ¬ opening <:+: front ++ cs := fun cs hcs hpair =>
        ((pair_infix_append hlast).mp hpair).elim htext hcs
      rw [fill_of_text htext]
      induction rest using placeholder_induction with
      | text cs hcs => rw [fill_of_text hcs, fill_of_text (hjoined cs hcs)]
      | unclosed before name hbefore hname =>
          have hwhole := hjoined _ hbefore
          rw [← List.append_assoc] at hwhole
          rw [fill_of_unclosed hbefore hname, ← List.append_assoc, fill_of_unclosed hwhole hname]
      | placeholder before name after hbefore hname =>
          have hwhole := hjoined _ hbefore
          rw [← List.append_assoc] at hwhole
          rw [fill_placeholder hbefore hname, ← List.append_assoc, fill_placeholder hwhole hname,
            List.append_assoc]
  | @cons before name after hbefore hname _ ih =>
      have hafter : after.getLast? ≠ some '\x7b' := fun hafter => hlast (by simp [hafter])
      rw [List.append_assoc, List.append_assoc, fill_placeholder hbefore hname,
        fill_placeholder hbefore hname, ih hafter, List.append_assoc, List.append_assoc]

theorem isClosed_or_exists (template : List Char) : IsClosed template ∨
    ∃ front name, template = front ++ (opening ++ name) ∧ IsClosed front ∧ front.getLast? ≠
    some '\x7b' ∧
      ¬ closing <:+: name := by
  induction template using placeholder_induction with
  | text cs hcs => exact .inl (.text hcs)
  | unclosed before name hbefore hname =>
      exact .inr ⟨before, name, rfl, .text (not_pair_infix_of_concat hbefore),
        getLast?_ne_of_not_pair_infix hbefore, hname⟩
  | placeholder before name after hbefore hname ih =>
      rcases ih with hafter | ⟨front, rest, rfl, hfront, hlast, hrest⟩
      · exact .inl (.cons hbefore hname hafter)
      · refine .inr ⟨before ++ (placeholder name ++ front),
          rest, by simp, .cons hbefore hname hfront, ?_, hrest⟩
        cases hfront : front.getLast? with
        | none => simp [List.getLast?_eq_none_iff.mp hfront, placeholder, closing]
        | some c => simpa [hfront] using hlast

theorem not_closing_infix_concat (hname : ¬ closing <:+: name) {key : List Char}
    (hkey : '\x7d' ∉ key) :
    ¬ closing <:+: (name ++ (opening ++ key)) ++ ['\x7d'] := by
  have hshape : (name ++ (opening ++ key)) ++ ['\x7d'] =
      name ++ '\x7b' :: ([] ++ '\x7b' :: (key ++ ['\x7d'])) := by
    simp [opening]
  rw [hshape, closing, pair_infix_append_cons (by decide), pair_infix_append_cons (by decide)]
  rintro (hpair | hpair | hpair)
  · exact hname hpair
  · simp at hpair
  · exact not_pair_infix_concat hkey hpair

theorem IsClosed.fill_known (h : IsClosed before) (hlast : before.getLast? ≠ some '\x7b')
    (hname : '\x7d' ∉ name)
    {value : Value} (hvalue : arguments.lookup (.ofList name) = some value) (after : List Char) :
    fill arguments (before ++ (placeholder name ++ after)) =
      fill arguments before ++ (argumentText value ++ fill arguments after) := by
  rw [h.fill_append hlast, fill_placeholder_append (not_pair_infix_concat hname),
    replacement, hvalue]

theorem IsClosed.fill_unclosed {front : List Char} (h : IsClosed front)
    (hlast : front.getLast? ≠ some '\x7b') (hname : ¬ closing <:+: name) :
    fill arguments (front ++ (opening ++ name)) = fill arguments front ++ (opening ++ name) := by
  rw [h.fill_append hlast]
  exact congrArg _ (fill_of_unclosed (show ¬ opening <:+: [] ++ ['\x7b'] by decide) hname)

theorem IsClosed.fill_swallowed {front key : List Char} (h : IsClosed front)
    (hlast : front.getLast? ≠ some '\x7b')
    (hname : ¬ closing <:+: name) (hkey : '\x7d' ∉ key) (after : List Char) :
    fill arguments (front ++ (opening ++ name) ++ (placeholder key ++ after)) =
      fill arguments front ++
      (replacement arguments (name ++ (opening ++ key)) ++ fill arguments after) := by
  have hshape : opening ++ name ++ (placeholder key ++ after) =
      placeholder (name ++ (opening ++ key)) ++ after := by
    simp [placeholder]
  rw [List.append_assoc, hshape, h.fill_append hlast,
    fill_placeholder_append (not_closing_infix_concat hname hkey)]

theorem exists_fill_of_not_isClosed {key : List Char} (hkey : '\x7d' ∉ key)
    (h : ¬ IsClosed before) :
    ∃ front name, before = front ++ (opening ++ name) ∧ IsClosed front ∧ ¬ closing <:+: name ∧
      ∀ (arguments : Members) (after : List Char),
        fill arguments before = fill arguments front ++ (opening ++ name) ∧
        fill arguments (before ++ (placeholder key ++ after)) =
          fill arguments front ++
          (replacement arguments (name ++ (opening ++ key)) ++ fill arguments after) := by
  rcases isClosed_or_exists before with hclosed | ⟨front, name, rfl, hfront, hlast, hname⟩
  · exact absurd hclosed h
  · exact ⟨front, name, rfl, hfront, hname, fun arguments after =>
      ⟨hfront.fill_unclosed hlast hname, hfront.fill_swallowed hlast hname hkey after⟩⟩

/-- The placeholder of a known argument is replaced, whatever stands behind it, just if each
opening pair before it is closed.  Behind an opening pair that is not closed, it belongs to the
name that begins there. -/
theorem fill_known_iff {key : List Char} (hkey : '\x7d' ∉ key) {before : List Char}
    (hlast : before.getLast? ≠ some '\x7b') :
    (IsClosed before ↔ ∀ (arguments : Members) (value : Value) (after : List Char),
      arguments.lookup (.ofList key) = some value →
        fill arguments (before ++ (placeholder key ++ after)) =
          fill arguments before ++ (argumentText value ++ fill arguments after)) ∧
      (¬ IsClosed before → ∃ front name, before = front ++ (opening ++ name) ∧ IsClosed front ∧
        ¬ closing <:+: name ∧ ∀ (arguments : Members) (after : List Char),
          fill arguments before = fill arguments front ++ (opening ++ name) ∧
          fill arguments (before ++ (placeholder key ++ after)) =
            fill arguments front ++
            (replacement arguments (name ++ (opening ++ key)) ++ fill arguments after)) := by
  refine ⟨⟨fun hclosed arguments value after hvalue => ?_, fun hknown => ?_⟩,
    exists_fill_of_not_isClosed hkey⟩
  · exact hclosed.fill_known hlast hkey hvalue after
  · by_contra hopen
    obtain ⟨front, name, -, -, -, hfill⟩ := exists_fill_of_not_isClosed hkey hopen
    -- With an empty argument the placeholder would have to disappear, but it stays as part of a
    -- longer name.
    have hreplaced := hknown [(.ofList key, .string "")] (.string "") [] List.lookup_cons_self
    obtain ⟨hbefore, hstays⟩ := hfill [(.ofList key, .string "")] []
    have hunknown : List.lookup (String.ofList (name ++ (opening ++ key)))
      [(String.ofList key, Value.string "")] = none := by
      rw [List.lookup_eq_none_iff, List.forall_mem_singleton, bne_iff_ne]
      intro heq
      have hnames := congrArg List.length (String.ofList_injective heq)
      simp [opening] at hnames
      omega
    have hlength := congrArg List.length (hreplaced.symm.trans hstays)
    rw [hbefore, replacement, hunknown] at hlength
    simp [argumentText, placeholder, opening, closing] at hlength
    omega

theorem fill_known_iff_twice :
    '\x7d' ∉ ['k'] ∧ "\x7b\x7bx\x7d\x7d: ".toList.getLast? ≠ some '\x7b' ∧
      IsClosed "\x7b\x7bx\x7d\x7d: ".toList ∧
      fill [("k", .string "v")] "\x7b\x7bx\x7d\x7d: \x7b\x7bk\x7d\x7d\x7b\x7bk\x7d\x7d".toList =
        "\x7b\x7bx\x7d\x7d: vv".toList := by
  have hkey : '\x7d' ∉ ['k'] := by decide
  have hlast : "\x7b\x7bx\x7d\x7d: ".toList.getLast? ≠ some '\x7b' := by decide
  have hclosed : IsClosed "\x7b\x7bx\x7d\x7d: ".toList :=
    .cons (show ¬ opening <:+: [] ++ ['\x7b'] by decide)
      (show ¬ closing <:+: ['x'] ++ ['\x7d'] by decide) (.text (by decide))
  have hknown :=
    (fill_known_iff hkey hlast).1.mp hclosed [("k", .string "v")] (.string "v")
      (placeholder ['k']) rfl
  refine ⟨hkey, hlast, hclosed, ?_⟩
  exact hknown.trans (by decide +kernel)

/-- An opening pair that is not closed takes the placeholder of a known argument with it. -/
theorem fill_known_swallowed :
    List.lookup "k" [("k", Value.string "v")] = some (.string "v") ∧
      (∀ c ∈ ['k'], c ≠ '\x7b' ∧ c ≠ '\x7d') ∧ "\x7b\x7ba ".toList.getLast? ≠ some '\x7b' ∧
      fill [("k", .string "v")] ("\x7b\x7ba ".toList ++ (placeholder ['k'] ++ [])) ≠
        fill [("k", .string "v")] "\x7b\x7ba ".toList ++
          (argumentText (.string "v") ++ fill [("k", .string "v")] []) :=
  ⟨rfl, by simp, by decide, by decide +kernel⟩

/-- A placeholder of a known argument, with the text before it. -/
structure Slot where
  before : List Char
  name : List Char
  value : Value

namespace Slot

def written (slot : Slot) : List Char :=
  slot.before ++ placeholder slot.name

def filled (slot : Slot) : List Char :=
  slot.before ++ argumentText slot.value

end Slot

/-- Whether a template is filled by replacing the placeholders of some slots, all of known
arguments.  Nothing is replaced in the texts between them. -/
structure IsCutAt (arguments : Members) (slots : List Slot) (rest template : List Char) :
    Prop where
  template_eq : template = slots.flatMap Slot.written ++ rest
  fill_eq : fill arguments template = slots.flatMap Slot.filled ++ rest
  lookup_eq : ∀ slot ∈ slots, arguments.lookup (.ofList slot.name) = some slot.value
  fill_before : ∀ slot ∈ slots, fill arguments slot.before = slot.before
  fill_rest : fill arguments rest = rest

namespace IsCutAt

variable {slots : List Slot} {rest template : List Char}

theorem single (h : fill arguments rest = rest) : IsCutAt arguments [] rest rest where
  template_eq := rfl
  fill_eq := h
  lookup_eq _ hslot := absurd hslot List.not_mem_nil
  fill_before _ hslot := absurd hslot List.not_mem_nil
  fill_rest := h

theorem cons_known (h : IsCutAt arguments slots rest template)
    (hbefore : ¬ opening <:+: before ++ ['\x7b'])
    (hname : ¬ closing <:+: name ++ ['\x7d']) {value : Value}
    (hvalue : arguments.lookup (.ofList name) = some value) :
    IsCutAt arguments (⟨before, name, value⟩ :: slots) rest
      (before ++ (placeholder name ++ template)) where
  template_eq := by simp [Slot.written, ← h.template_eq]
  fill_eq := by
    rw [fill_placeholder hbefore hname, h.fill_eq, replacement, hvalue]
    simp [Slot.filled]
  lookup_eq := List.forall_mem_cons.mpr ⟨hvalue, h.lookup_eq⟩
  fill_before :=
    List.forall_mem_cons.mpr ⟨fill_of_text (not_pair_infix_of_concat hbefore), h.fill_before⟩
  fill_rest := h.fill_rest

theorem prepend_unknown (h : IsCutAt arguments slots rest template)
    (hbefore : ¬ opening <:+: before ++ ['\x7b'])
    (hname : ¬ closing <:+: name ++ ['\x7d']) (hvalue : arguments.lookup (.ofList name) = none) :
    ∃ slots rest, IsCutAt arguments slots rest (before ++ (placeholder name ++ template)) := by
  have hfill : ∀ text, fill arguments (before ++ (placeholder name ++ text)) =
      before ++ (placeholder name ++ fill arguments text) := by
    intro text
    rw [fill_placeholder hbefore hname, replacement, hvalue]
  cases slots with
  | nil =>
      exact ⟨[], _, .single ((hfill template).trans (by rw [h.fill_eq, h.template_eq]; rfl))⟩
  | cons slot slots =>
      obtain ⟨hslot, hslots⟩ := List.forall_mem_cons.mp h.lookup_eq
      obtain ⟨hfirst, hlater⟩ := List.forall_mem_cons.mp h.fill_before
      let joined : Slot := { slot with before := before ++ (placeholder name ++ slot.before) }
      refine ⟨joined :: slots, rest, ?_, ?_, ?_, ?_, ?_⟩
      · simp [joined, Slot.written, h.template_eq]
      · rw [hfill, h.fill_eq]
        simp [joined, Slot.filled]
      · exact List.forall_mem_cons.mpr ⟨hslot, hslots⟩
      · exact List.forall_mem_cons.mpr ⟨(hfill slot.before).trans (by rw [hfirst]), hlater⟩
      · exact h.fill_rest

theorem infix_of_mem (h : IsCutAt arguments slots rest template) {slot : Slot}
    (hslot : slot ∈ slots) :
    placeholder slot.name <:+: template := by
  obtain ⟨earlier, later, rfl⟩ := List.append_of_mem hslot
  rw [h.template_eq]
  exact ⟨earlier.flatMap Slot.written ++ slot.before, later.flatMap Slot.written ++
    rest, by simp [Slot.written]⟩

end IsCutAt

theorem exists_isCutAt (arguments : Members) (template : List Char) :
    ∃ slots rest, IsCutAt arguments slots rest template := by
  induction template using placeholder_induction with
  | text cs hcs => exact ⟨[], cs, .single (fill_of_text hcs)⟩
  | unclosed before name hbefore hname => exact ⟨[], _, .single (fill_of_unclosed hbefore hname)⟩
  | placeholder before name after hbefore hname ih =>
      obtain ⟨slots, rest, hafter⟩ := ih
      cases hvalue : arguments.lookup (.ofList name) with
      | none => exact hafter.prepend_unknown hbefore hname hvalue
      | some value => exact ⟨_, rest, hafter.cons_known hbefore hname hvalue⟩

/-- Only placeholders of known arguments are replaced, and what is put in is not looked at again.
Nothing changes where there are none. -/
theorem fill_replaces_known (arguments : Members) (template : List Char) :
    (∃ slots rest, IsCutAt arguments slots rest template) ∧
      ((∀ name ∈ arguments.map Prod.fst, ¬ placeholder name.toList <:+: template) →
        fill arguments template = template) := by
  obtain ⟨slots, rest, h⟩ := exists_isCutAt arguments template
  refine ⟨⟨slots, rest, h⟩, fun hunknown => ?_⟩
  cases slots with
  | nil => exact h.fill_eq.trans h.template_eq.symm
  | cons slot slots =>
      obtain ⟨earlier, later, harguments, -⟩ :=
        List.lookup_eq_some_iff.mp (h.lookup_eq slot List.mem_cons_self)
      have hinfix := h.infix_of_mem List.mem_cons_self
      have hname : String.ofList slot.name ∈ arguments.map Prod.fst := by simp [harguments]
      have habsent := hunknown _ hname
      rw [String.toList_ofList] at habsent
      exact absurd hinfix habsent

example : fill [("a", .string "\x7b\x7bb\x7d\x7d"), ("b", .string "x")]
    "\x7b\x7ba\x7d\x7d \x7b\x7bb\x7d\x7d".toList = "\x7b\x7bb\x7d\x7d x".toList := by
  decide +kernel

theorem fill_replaces_known_braces :
    (∀ name ∈ [("a", Value.string "\x7b\x7bb\x7d\x7d"), ("b", .string "\x7d\x7d")].map Prod.fst,
      ¬ placeholder name.toList <:+: "\x7b\x7bc\x7d\x7d \x7ba\x7d \x7b\x7bb".toList) ∧
      fill [("a", .string "\x7b\x7bb\x7d\x7d"), ("b", .string "\x7d\x7d")]
        "\x7b\x7bc\x7d\x7d \x7ba\x7d \x7b\x7bb".toList =
          "\x7b\x7bc\x7d\x7d \x7ba\x7d \x7b\x7bb".toList := by
  have hunknown :
    ∀ name ∈ [("a", Value.string "\x7b\x7bb\x7d\x7d"), ("b", .string "\x7d\x7d")].map Prod.fst,
      ¬ placeholder name.toList <:+: "\x7b\x7bc\x7d\x7d \x7ba\x7d \x7b\x7bb".toList := by
    decide
  exact ⟨hunknown, (fill_replaces_known _ _).2 hunknown⟩

end TranscriptSearch.Template
