import TranscriptSearch.Transcript.Basic

namespace TranscriptSearch.Transcript

/-- A transcript that another one may have become: later items stand behind the earlier ones,
unless a reset came between. -/
structure Extends (later earlier : Transcript) : Prop where
  epoch_le : earlier.epoch ≤ later.epoch
  prefix_items : later.epoch = earlier.epoch → earlier.items <+: later.items

theorem Extends.refl (t : Transcript) : t.Extends t :=
  ⟨Nat.le_refl _, fun _ => List.prefix_refl _⟩

theorem Extends.trans {t u v : Transcript} (huv : v.Extends u) (htu : u.Extends t) :
    v.Extends t := by
  refine ⟨Nat.le_trans htu.epoch_le huv.epoch_le, fun hepoch => ?_⟩
  have hu := htu.epoch_le
  have hv := huv.epoch_le
  exact (htu.prefix_items (by omega)).trans (huv.prefix_items (by omega))

@[simp] theorem epoch_push (t : Transcript) (source : SourceEvent) :
    (t.push source).epoch = t.epoch := by
  rw [push]
  split <;> rfl

theorem prefix_items_push (t : Transcript) (source : SourceEvent) :
    t.items <+: (t.push source).items := by
  rw [push]
  split
  · exact List.prefix_refl _
  · exact List.prefix_append _ _

@[simp] theorem epoch_append (t : Transcript) (sources : List SourceEvent) :
    (t.append sources).epoch = t.epoch := by
  induction sources generalizing t with
  | nil => rfl
  | cons source sources ih => exact (ih (t.push source)).trans (t.epoch_push source)

theorem prefix_items_append (t : Transcript) (sources : List SourceEvent) :
    t.items <+: (t.append sources).items := by
  induction sources generalizing t with
  | nil => exact List.prefix_refl _
  | cons source sources ih => exact (t.prefix_items_push source).trans (ih (t.push source))

theorem extends_append (t : Transcript) (sources : List SourceEvent) :
    (t.append sources).Extends t :=
  ⟨Nat.le_of_eq (t.epoch_append sources).symm, fun _ => t.prefix_items_append sources⟩

theorem position_push (t : Transcript) (source : SourceEvent) :
    (t.push source).position = t.position + 1 := by
  rw [push]
  split <;> rfl

theorem position_append (t : Transcript) (sources : List SourceEvent) :
    (t.append sources).position = t.position + sources.length := by
  induction sources generalizing t with
  | nil => rfl
  | cons source sources ih =>
      change ((t.push source).append sources).position = _
      rw [ih, position_push, List.length_cons]
      omega

theorem append_append (t : Transcript) (sources more : List SourceEvent) :
    t.append (sources ++ more) = (t.append sources).append more :=
  List.foldl_append

theorem push_withEpoch (t : Transcript) (epoch : Nat) (source : SourceEvent) :
    { t with epoch }.push source = { t.push source with epoch } := by
  simp only [push]
  split <;> rfl

theorem append_withEpoch (t : Transcript) (epoch : Nat) (sources : List SourceEvent) :
    { t with epoch }.append sources = { t.append sources with epoch } := by
  induction sources generalizing t with
  | nil => rfl
  | cons source sources ih =>
      change ({ t with epoch }.push source).append sources = _
      rw [push_withEpoch, ih]
      rfl

theorem extends_reset (t : Transcript) : t.reset.Extends t :=
  ⟨Nat.le_succ _, fun hepoch => absurd hepoch (Nat.succ_ne_self _)⟩

end TranscriptSearch.Transcript
