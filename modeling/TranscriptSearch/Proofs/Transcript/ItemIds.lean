import Mathlib.Data.List.Infix
import TranscriptSearch.Proofs.Transcript.Lookup
import TranscriptSearch.Proofs.Transcript.OpenSpans

/-!
Items and their identifiers while a transcript grows and is reset.  The indices of the items are
written down in a table by identifier, into which each item is entered as it comes; a repeated
identifier keeps its first index.  After every run the table leads to the first item with an
identifier, the items are those that the events of the epoch make, and items without an identifier
of their own have got different ones.
-/

namespace TranscriptSearch

/-- A change of a transcript. -/
inductive TranscriptStep where
  | append (sources : List SourceEvent)
  | reset

/-- What a transcript is made from: the items it began with, and the events it has taken since. -/
structure Intake where
  ready : List Item
  sources : List SourceEvent

namespace Intake

def next (intake : Intake) : TranscriptStep → Intake
  | .append sources => { intake with sources := intake.sources ++ sources }
  | .reset => ⟨[], []⟩

/-- What a transcript is made from after a run: what has come since the last reset. -/
def after (ready : List Item) (steps : List TranscriptStep) : Intake :=
  steps.foldl next ⟨ready, []⟩

/-- The events that make items. -/
def makers (intake : Intake) : List SourceEvent :=
  intake.sources.filter (·.event.makesItem)

end Intake

/-- A table with an identifier entered at an index.  One that is there already keeps its index. -/
def enterId (id : String) (index : Nat) (table : List (String × Nat)) : List (String × Nat) :=
  match table.lookup id with
  | some _ => table
  | none => (id, index) :: table

/-- A transcript with a table of its items' indices. -/
structure IndexedTranscript where
  transcript : Transcript
  positions : List (String × Nat)

namespace IndexedTranscript

/-- The table of items that come one after the other. -/
def tableOf (ids : List String) : List (String × Nat) :=
  ids.zipIdx.foldl (fun table entry => enterId entry.1 entry.2 table) []

def ofItems (items : List Item) : IndexedTranscript :=
  ⟨.ofItems items, tableOf (items.map Item.id)⟩

def push (t : IndexedTranscript) (source : SourceEvent) : IndexedTranscript where
  transcript := t.transcript.push source
  positions :=
    if source.event.makesItem then
      enterId (Transcript.itemId source t.transcript.position) t.transcript.size t.positions
    else t.positions

def next (t : IndexedTranscript) : TranscriptStep → IndexedTranscript
  | .append sources => sources.foldl push t
  | .reset => ⟨t.transcript.reset, []⟩

def run (t : IndexedTranscript) (steps : List TranscriptStep) : IndexedTranscript :=
  steps.foldl next t

def indexOf? (t : IndexedTranscript) (id : String) : Option Nat :=
  t.positions.lookup id

/-- Whether the table has been made from the items. -/
def IsIndexed (t : IndexedTranscript) : Prop :=
  t.positions = tableOf (t.transcript.items.map Item.id)

theorem lookup_enterId (id other : String) (index : Nat) (table : List (String × Nat)) :
    (enterId id index table).lookup other =
      (table.lookup other).or (if other = id then some index else none) := by
  rw [enterId]
  cases hfound : table.lookup id with
  | some first =>
      by_cases hid : other = id
      · rw [hid, hfound]
        rfl
      · rw [if_neg hid, Option.or_none]
  | none =>
      by_cases hid : other = id
      · rw [hid, List.lookup_cons_self, hfound, if_pos rfl]
        rfl
      · rw [List.lookup_cons, beq_false_of_ne hid, if_neg hid, Option.or_none]

theorem tableOf_append (ids : List String) (id : String) :
    tableOf (ids ++ [id]) = enterId id ids.length (tableOf ids) := by
  rw [tableOf, List.zipIdx_append, List.foldl_append, Nat.zero_add]
  rfl

theorem lookup_tableOf (ids : List String) (id : String) :
    (tableOf ids).lookup id = ids.findIdx? (· == id) := by
  induction ids using List.reverseRecOn with
  | nil => rfl
  | append_singleton ids last ih =>
      rw [tableOf_append, lookup_enterId, ih, List.findIdx?_append]
      by_cases hid : id = last
      · simp [hid]
      · simp [hid, Ne.symm hid]

theorem IsIndexed.indexOf?_eq {t : IndexedTranscript} (h : t.IsIndexed) (id : String) :
    t.indexOf? id = t.transcript.indexOf? id := by
  rw [indexOf?, h, lookup_tableOf, List.findIdx?_map]
  rfl

theorem isIndexed_ofItems (items : List Item) : (ofItems items).IsIndexed :=
  rfl

theorem IsIndexed.push {t : IndexedTranscript} (h : t.IsIndexed) (source : SourceEvent) :
    (t.push source).IsIndexed := by
  rw [IsIndexed, IndexedTranscript.push, Transcript.items_push, h]
  split
  · rw [List.map_append, List.map_singleton, tableOf_append, List.length_map]
    rfl
  · rw [List.append_nil]

theorem IsIndexed.next {t : IndexedTranscript} (h : t.IsIndexed) (step : TranscriptStep) :
    (t.next step).IsIndexed := by
  cases step with
  | append sources =>
      induction sources generalizing t with
      | nil => exact h
      | cons source sources ih => exact ih (h.push source)
  | reset => rfl

theorem IsIndexed.run {t : IndexedTranscript} (h : t.IsIndexed) (steps : List TranscriptStep) :
    (t.run steps).IsIndexed := by
  induction steps generalizing t with
  | nil => exact h
  | cons step steps ih => exact ih (h.next step)

theorem transcript_append (t : IndexedTranscript) (sources : List SourceEvent) :
    (t.next (.append sources)).transcript = t.transcript.append sources := by
  change (sources.foldl IndexedTranscript.push t).transcript = _
  induction sources generalizing t with
  | nil => rfl
  | cons source sources ih => exact ih (t.push source)

end IndexedTranscript

namespace Transcript

/-- Whether a transcript is what has been taken in since the last reset makes of it. -/
def IsMadeFrom (t : Transcript) (intake : Intake) : Prop :=
  t = { (ofItems intake.ready).append intake.sources with epoch := t.epoch }

theorem IsMadeFrom.append {t : Transcript} {intake : Intake} (h : t.IsMadeFrom intake)
    (sources : List SourceEvent) :
    (t.append sources).IsMadeFrom (intake.next (.append sources)) := by
  rw [IsMadeFrom, epoch_append]
  conv_lhs => rw [h]
  rw [append_withEpoch, Intake.next, append_append]

theorem isMadeFrom_ofItems (items : List Item) : (ofItems items).IsMadeFrom ⟨items, []⟩ :=
  rfl

theorem isMadeFrom_reset (t : Transcript) : t.reset.IsMadeFrom ⟨[], []⟩ :=
  rfl

/-- The events that make items, with their places in the stream. -/
def placesFrom (position : Nat) (sources : List SourceEvent) : List (SourceEvent × Nat) :=
  (sources.zipIdx position).filter (·.1.event.makesItem)

/-- What an item has from the event that makes it. -/
def traits (item : Item) : String × Option Timestamp × Event :=
  (item.id, item.timestamp, item.event)

def traitsAt (place : SourceEvent × Nat) : String × Option Timestamp × Event :=
  (itemId place.1 place.2, place.1.timestamp, place.1.event)

theorem map_traits_append (t : Transcript) (sources : List SourceEvent) :
    (t.append sources).items.map traits =
      t.items.map traits ++ (placesFrom t.position sources).map traitsAt := by
  induction sources generalizing t with
  | nil => exact (List.append_nil _).symm
  | cons source sources ih =>
      change ((t.push source).append sources).items.map traits = _
      rw [ih, items_push, position_push, placesFrom, placesFrom, List.zipIdx_cons,
        List.filter_cons, List.map_append, List.append_assoc]
      apply congrArg
      split
      · rfl
      · rfl

theorem map_fst_placesFrom (position : Nat) (sources : List SourceEvent) :
    (placesFrom position sources).map Prod.fst = sources.filter (·.event.makesItem) := by
  induction sources generalizing position with
  | nil => rfl
  | cons source sources ih =>
      rw [placesFrom, List.zipIdx_cons, List.filter_cons, List.filter_cons]
      split
      · exact congrArg (source :: ·) (ih (position + 1))
      · exact ih (position + 1)

theorem pairwise_placesFrom (position : Nat) (sources : List SourceEvent) :
    (placesFrom position sources).Pairwise fun earlier later => earlier.2 < later.2 := by
  refine List.Pairwise.sublist List.filter_sublist ?_
  rw [← List.pairwise_map, List.zipIdx_map_snd]
  exact List.pairwise_lt_range'

theorem eq_of_eventId_eq {m n : Nat} (h : "event-" ++ toString m = "event-" ++ toString n) :
    m = n := by
  have hdigits : Nat.toDigits 10 m = Nat.toDigits 10 n := by
    rw [← Nat.toList_repr, ← Nat.toList_repr]
    exact congrArg String.toList ((String.append_right_inj "event-").mp h)
  rw [← Nat.ofDigitChars_ten_toDigits (n := m), hdigits, Nat.ofDigitChars_ten_toDigits]

variable {t : Transcript} {intake : Intake}

theorem IsMadeFrom.map_traits (h : t.IsMadeFrom intake) :
    t.items.map traits =
      intake.ready.map traits ++ (placesFrom 0 intake.sources).map traitsAt := by
  rw [IsMadeFrom] at h
  rw [h]
  exact map_traits_append (ofItems intake.ready) intake.sources

theorem IsMadeFrom.prefix_ready (h : t.IsMadeFrom intake) : intake.ready <+: t.items := by
  rw [IsMadeFrom] at h
  rw [h]
  exact prefix_items_append (ofItems intake.ready) intake.sources

theorem IsMadeFrom.size_eq (h : t.IsMadeFrom intake) :
    t.size = intake.ready.length + intake.makers.length := by
  have hlength := congrArg List.length h.map_traits
  rw [List.length_append, List.length_map, List.length_map, List.length_map] at hlength
  rw [Intake.makers, ← map_fst_placesFrom 0, List.length_map]
  exact hlength

theorem IsMadeFrom.position_eq (h : t.IsMadeFrom intake) :
    t.position = intake.sources.length := by
  rw [IsMadeFrom] at h
  rw [h]
  exact (position_append _ _).trans (Nat.zero_add _)

theorem IsMadeFrom.exists_item (h : t.IsMadeFrom intake) {index : Nat} {source : SourceEvent}
    (hsource : intake.makers[index]? = some source) :
    ∃ position item, (placesFrom 0 intake.sources)[index]? = some (source, position) ∧
      t.item? (intake.ready.length + index) = some item ∧ item.id = itemId source position ∧
      item.timestamp = source.timestamp ∧ item.event = source.event := by
  rw [Intake.makers, ← map_fst_placesFrom 0, List.getElem?_map, Option.map_eq_some_iff] at hsource
  obtain ⟨⟨source, position⟩, hplace, rfl⟩ := hsource
  have hitem : (t.items.map traits)[intake.ready.length + index]? =
      some (traitsAt (source, position)) := by
    rw [h.map_traits, List.getElem?_append_right (by simp), List.length_map,
      Nat.add_sub_cancel_left, List.getElem?_map, hplace]
    rfl
  rw [List.getElem?_map, Option.map_eq_some_iff] at hitem
  obtain ⟨item, hitem, htraits⟩ := hitem
  simp only [traits, traitsAt, Prod.mk.injEq] at htraits
  exact ⟨position, item, hplace, hitem, htraits⟩

theorem eq_of_place_eq {position m n : Nat} {sources : List SourceEvent}
    {place other : SourceEvent × Nat} (hm : (placesFrom position sources)[m]? = some place)
    (hn : (placesFrom position sources)[n]? = some other) (h : place.2 = other.2) : m = n := by
  have hbefore := List.pairwise_iff_getElem.mp (pairwise_placesFrom position sources)
  obtain ⟨hmlt, rfl⟩ := List.getElem?_eq_some_iff.mp hm
  obtain ⟨hnlt, rfl⟩ := List.getElem?_eq_some_iff.mp hn
  rcases Nat.lt_trichotomy m n with hlt | heq | hgt
  · exact absurd h (Nat.ne_of_lt (hbefore m n hmlt hnlt hlt))
  · exact heq
  · exact absurd h.symm (Nat.ne_of_lt (hbefore n m hnlt hmlt hgt))

end Transcript

namespace IndexedTranscript

/-- What a transcript with its table holds of what it has taken in since the last reset. -/
structure Lists (t : IndexedTranscript) (intake : Intake) : Prop where
  indexOf?_eq : ∀ id, t.indexOf? id = t.transcript.indexOf? id
  indexOf?_eq_some_iff : ∀ id index, t.indexOf? id = some index ↔
    (∃ item, t.transcript.item? index = some item ∧ item.id = id) ∧
      ∀ earlier < index, ∀ item, t.transcript.item? earlier = some item → item.id ≠ id
  size_eq : t.transcript.size = intake.ready.length + intake.makers.length
  position_eq : t.transcript.position = intake.sources.length
  prefix_ready : intake.ready <+: t.transcript.items
  item_of_maker : ∀ index source, intake.makers[index]? = some source →
    ∃ item, t.transcript.item? (intake.ready.length + index) = some item ∧
      item.event = source.event ∧ item.timestamp = source.timestamp ∧
      ∀ uuid ∈ source.uuid, item.id = uuid
  id_ne : ∀ m n source other, m ≠ n →
    intake.makers[m]? = some source → intake.makers[n]? = some other →
    source.uuid = none → other.uuid = none →
    (t.transcript.item? (intake.ready.length + m)).map Item.id ≠
      (t.transcript.item? (intake.ready.length + n)).map Item.id

/-- Whether everything that stands in a transcript still stands there later, and is found
there. -/
structure Keeps (later earlier : IndexedTranscript) : Prop where
  item? : ∀ index item, earlier.transcript.item? index = some item →
    later.transcript.item? index = some item
  indexOf? : ∀ id index, earlier.indexOf? id = some index → later.indexOf? id = some index

variable {t : IndexedTranscript} {intake : Intake}

theorem IsIndexed.indexOf?_eq_some_iff (h : t.IsIndexed) (id : String) (index : Nat) :
    t.indexOf? id = some index ↔
      (∃ item, t.transcript.item? index = some item ∧ item.id = id) ∧
        ∀ earlier < index, ∀ item, t.transcript.item? earlier = some item → item.id ≠ id := by
  rw [h.indexOf?_eq, Transcript.indexOf?, List.findIdx?_eq_some_iff_getElem]
  constructor
  · rintro ⟨hlt, hid, hfirst⟩
    refine ⟨⟨_, List.getElem?_eq_getElem hlt, eq_of_beq hid⟩, ?_⟩
    intro earlier hearlier item hitem heq
    obtain ⟨_, rfl⟩ := List.getElem?_eq_some_iff.mp hitem
    exact hfirst earlier hearlier (beq_iff_eq.mpr heq)
  · rintro ⟨⟨item, hitem, hid⟩, hfirst⟩
    obtain ⟨hlt, rfl⟩ := List.getElem?_eq_some_iff.mp hitem
    refine ⟨hlt, beq_iff_eq.mpr hid, ?_⟩
    intro earlier hearlier heq
    exact hfirst earlier hearlier _ (List.getElem?_eq_getElem (by omega)) (eq_of_beq heq)

theorem lists_of_isMadeFrom (hindexed : t.IsIndexed) (hmade : t.transcript.IsMadeFrom intake) :
    t.Lists intake where
  indexOf?_eq := hindexed.indexOf?_eq
  indexOf?_eq_some_iff := hindexed.indexOf?_eq_some_iff
  size_eq := hmade.size_eq
  position_eq := hmade.position_eq
  prefix_ready := hmade.prefix_ready
  item_of_maker index source hsource := by
    obtain ⟨position, item, -, hitem, hid, htimestamp, hevent⟩ := hmade.exists_item hsource
    refine ⟨item, hitem, hevent, htimestamp, fun uuid huuid => ?_⟩
    rw [hid, Transcript.itemId, Option.mem_def.mp huuid, Option.getD_some]
  id_ne m n source other hne hsource hother hnone hnone' := by
    obtain ⟨position, item, hplace, hitem, hid, -⟩ := hmade.exists_item hsource
    obtain ⟨position', item', hplace', hitem', hid', -⟩ := hmade.exists_item hother
    rw [Transcript.itemId, hnone, Option.getD_none] at hid
    rw [Transcript.itemId, hnone', Option.getD_none] at hid'
    rw [hitem, hitem', Option.map_some, Option.map_some]
    intro heq
    rw [Option.some_inj, hid, hid'] at heq
    exact hne (Transcript.eq_of_place_eq hplace hplace' (Transcript.eq_of_eventId_eq heq))

theorem isMadeFrom_run (h : t.transcript.IsMadeFrom intake) (steps : List TranscriptStep) :
    (t.run steps).transcript.IsMadeFrom (steps.foldl Intake.next intake) := by
  induction steps generalizing t intake with
  | nil => exact h
  | cons step steps ih =>
      apply ih
      cases step with
      | append sources =>
          rw [transcript_append]
          exact h.append sources
      | reset => exact t.transcript.isMadeFrom_reset

theorem extends_run (t : IndexedTranscript) (steps : List TranscriptStep) :
    (t.run steps).transcript.Extends t.transcript := by
  induction steps generalizing t with
  | nil => exact .refl _
  | cons step steps ih =>
      apply (ih (t.next step)).trans
      cases step with
      | append sources =>
          rw [transcript_append]
          exact t.transcript.extends_append sources
      | reset => exact t.transcript.extends_reset

theorem epoch_run_eq_iff (t : IndexedTranscript) (steps : List TranscriptStep) :
    (t.run steps).transcript.epoch = t.transcript.epoch ↔ TranscriptStep.reset ∉ steps := by
  induction steps generalizing t with
  | nil => exact iff_of_true rfl List.not_mem_nil
  | cons step steps ih =>
      cases step with
      | append sources =>
          have hepoch : (t.next (.append sources)).transcript.epoch = t.transcript.epoch := by
            rw [transcript_append, Transcript.epoch_append]
          rw [← hepoch, List.mem_cons, or_iff_right nofun]
          exact ih _
      | reset =>
          apply iff_of_false
          · exact Nat.ne_of_gt (extends_run (t.next .reset) steps).epoch_le
          · exact not_not_intro List.mem_cons_self

theorem keeps_run (h : t.IsIndexed) (steps : List TranscriptStep)
    (hepoch : (t.run steps).transcript.epoch = t.transcript.epoch) : (t.run steps).Keeps t where
  item? index item hitem := by
    obtain ⟨added, hadded⟩ := (t.extends_run steps).prefix_items hepoch
    rw [Transcript.item?, ← hadded]
    exact List.getElem?_append_left (List.getElem?_eq_some_iff.mp hitem).1 ▸ hitem
  indexOf? id index hindex := by
    obtain ⟨added, hadded⟩ := (t.extends_run steps).prefix_items hepoch
    rw [h.indexOf?_eq] at hindex
    rw [(h.run steps).indexOf?_eq, Transcript.indexOf?, ← hadded, List.findIdx?_append]
    exact Option.or_eq_some_iff.mpr (.inl hindex)

/-- After every run the table and the list are those of what has been taken in since the last
reset, and what is there stays there until the next one. -/
theorem lists_run (ready : List Item) (steps more : List TranscriptStep) :
    let t := (ofItems ready).run steps
    t.Lists (Intake.after ready steps) ∧
      ((t.run more).transcript.epoch = t.transcript.epoch ↔ TranscriptStep.reset ∉ more) ∧
      ((t.run more).transcript.epoch = t.transcript.epoch → (t.run more).Keeps t) := by
  intro t
  have hindexed : t.IsIndexed := (isIndexed_ofItems ready).run steps
  have hmade : t.transcript.IsMadeFrom (Intake.after ready steps) :=
    isMadeFrom_run (Transcript.isMadeFrom_ofItems ready) steps
  exact ⟨lists_of_isMadeFrom hindexed hmade, t.epoch_run_eq_iff more, keeps_run hindexed more⟩

-- An identifier that is made for an item may be that of an item before it.
example :
    let t := (ofItems []).run
      [.append [⟨some "event-1", none, .input "a"⟩], .append [⟨none, none, .input "b"⟩]]
    t.transcript.items.map Item.id = ["event-1", "event-1"] ∧ t.indexOf? "event-1" = some 0 := by
  decide +kernel

end IndexedTranscript

end TranscriptSearch
