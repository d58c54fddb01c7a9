import PulseTimeline.Proofs.Waveform.Meaning

set_option autoImplicit false

/-! # Constants written out

A constant waveform stands for as many samples as are asked for. Writing them all out changes how
the samples of an operation are kept, since two constants are kept as one point, and nothing else:
the same operations are refused for the same reasons, and the samples of the others cannot be told
apart, however often they are scaled. -/

namespace PulseTimeline

/-! ## Tables -/

namespace Table

variable {α β : Type}

/-- Change every value in the same way. -/
def mapValues (f : α → β) (t : Table α) : Table β :=
  ⟨t.entries.map fun e => (e.1, f e.2), by
    rw [List.map_map]
    exact t.nodup_keys⟩

theorem find?_mapValues (f : α → β) (t : Table α) (name : String) :
    (t.mapValues f).find? name = (t.find? name).map f := by
  obtain ⟨entries, hnodup⟩ := t
  simp only [mapValues, find?]
  clear hnodup
  induction entries with
  | nil => rfl
  | cons e rest ih =>
      rw [List.map_cons, List.lookup_cons, List.lookup_cons, ih]
      cases name == e.1 <;> rfl

end Table

/-! ## Corresponding outcomes -/

/-- Two computations succeed with related values, or fail with the same error. -/
inductive Corresponds {ε α : Type} (R : α → α → Prop) : Except ε α → Except ε α → Prop where
  | ok {a b : α} (h : R a b) : Corresponds R (.ok a) (.ok b)
  | error (e : ε) : Corresponds R (.error e) (.error e)

namespace Corresponds

variable {ε α β : Type} {R : α → α → Prop} {S : β → β → Prop} {x y : Except ε α}

theorem refl (hrefl : ∀ a, R a a) (x : Except ε α) : Corresponds R x x := by
  cases x with
  | ok a => exact .ok (hrefl a)
  | error e => exact .error e

theorem bind {f g : α → Except ε β} (h : Corresponds R x y)
    (hnext : ∀ a b, R a b → Corresponds S (f a) (g b)) : Corresponds S (x >>= f) (y >>= g) := by
  cases h with
  | ok hab => exact hnext _ _ hab
  | error e => exact .error e

theorem eq_error_iff (h : Corresponds R x y) (e : ε) : x = .error e ↔ y = .error e := by
  cases h with
  | ok => exact ⟨nofun, nofun⟩
  | error => rfl

theorem exists_ok {b : α} (h : Corresponds R x (.ok b)) : ∃ a, x = .ok a ∧ R a b := by
  cases h with
  | ok hab => exact ⟨_, rfl, hab⟩

end Corresponds

/-! ## Waveforms -/

namespace Waveform

/-- Repeat the sample of a constant. -/
def writtenOut (length : Nat) : Waveform → Waveform
  | constant sample => arbitrary (List.replicate length sample)
  | arbitrary samples => arbitrary samples

/-- Two waveforms have the same samples up to a length. -/
def SameUpTo (length : Nat) (i q : Waveform) : Prop :=
  ∀ index < length, i.sample index = q.sample index

theorem SameUpTo.refl (length : Nat) (waveform : Waveform) : SameUpTo length waveform waveform :=
  fun _ _ => rfl

theorem sameUpTo_replicate (length : Nat) (x : Float) :
    SameUpTo length (arbitrary (List.replicate length x)) (constant x) := by
  intro index hindex
  simp only [sample, List.getElem?_replicate, if_pos hindex, Option.getD_some]

end Waveform

/-- Of waveforms with the same samples the same points are made. -/
theorem Samples.points_congr {length : Nat} {i i' q q' : Waveform}
    (hi : Waveform.SameUpTo length i i') (hq : Waveform.SameUpTo length q q') :
    (ofWaveforms length i q).points = (ofWaveforms length i' q').points := by
  rw [points_ofWaveforms, points_ofWaveforms]
  refine List.map_congr_left fun index hindex => ?_
  rw [hi index (List.mem_range.1 hindex), hq index (List.mem_range.1 hindex)]

/-! ## Operations -/

namespace Hardware

/-- Repeat the sample of every constant waveform. -/
def writtenOut (hardware : Hardware) (length : Nat) : Hardware :=
  { hardware with waveforms := hardware.waveforms.mapValues (Waveform.writtenOut length) }

/-- The number of samples that is asked for, or else the configured one. An operation without a
    pulse has none configured, and any number takes its place. -/
def lengthOf (hardware : Hardware) (element operation : String) (duration : Option Nat)
    (absent : Nat) : Nat :=
  duration.getD ((hardware.pulseLength? element operation).getD absent)

/-- What is written out has the length by itself, which a constant has anyway. -/
theorem corresponds_fittingWaveform (hardware : Hardware) (name : String) (length : Nat) :
    Corresponds (Waveform.SameUpTo length)
      ((hardware.writtenOut length).fittingWaveform name length)
      (hardware.fittingWaveform name length) := by
  simp only [fittingWaveform, writtenOut, Table.find?_mapValues]
  cases hardware.waveforms.find? name with
  | none => exact .error _
  | some waveform => cases waveform with
    | constant x =>
        simp only [Option.map_some, Waveform.writtenOut, List.length_replicate, if_true]
        exact .ok (Waveform.sameUpTo_replicate length x)
    | arbitrary samples => exact .refl (Waveform.SameUpTo.refl length) _

theorem corresponds_fittingQuadrature (hardware : Hardware) (pulse : PulseShape) (length : Nat) :
    Corresponds (Waveform.SameUpTo length)
      ((hardware.writtenOut length).fittingQuadrature pulse length)
      (hardware.fittingQuadrature pulse length) := by
  unfold fittingQuadrature
  cases pulse.waveforms.find? "Q" with
  | none => exact .refl (Waveform.SameUpTo.refl length) _
  | some name => exact corresponds_fittingWaveform hardware name length

/-- The names that are looked up do not depend on the waveforms, so that the same look-up fails
    first. -/
theorem corresponds_resolve (hardware : Hardware) (element operation : String)
    (duration : Option Nat) (amplitude : Option Float) (absent : Nat) :
    Corresponds (fun written samples => written.points = samples.points)
      ((hardware.writtenOut (hardware.lengthOf element operation duration absent)).resolve element
        operation duration amplitude)
      (hardware.resolve element operation duration amplitude) := by
  have hlookUp : ∀ length, (hardware.writtenOut length).lookUp element operation
      = hardware.lookUp element operation := fun _ => rfl
  rw [resolve_eq, resolve_eq, hlookUp]
  cases hfound : hardware.lookUp element operation with
  | error e => exact .error e
  | ok found =>
      obtain ⟨pulse, iName⟩ := found
      have hlength : hardware.lengthOf element operation duration absent
          = duration.getD pulse.length := by
        rw [lengthOf, (lookUp_eq_ok_iff.1 hfound).pulseLength?, Option.getD_some]
      rw [hlength]
      -- The waveform for the in-phase signal is refused first in both configurations.
      refine (corresponds_fittingWaveform hardware iName _).bind fun i i' hi => ?_
      refine (corresponds_fittingQuadrature hardware pulse _).bind fun q q' hq => .ok ?_
      rw [Samples.points_scaledBy, Samples.points_scaledBy, Samples.points_congr hi hq]

/-- **Constants play as if they were written out.** Where every constant waveform is replaced by the
    list that repeats its sample as often as an operation has samples, the operation is refused with
    the same error or not at all. Its samples then have the same views, before and after they are
    scaled any number of times. -/
theorem constants_play_as_written_out (hardware : Hardware) (element operation : String)
    (duration : Option Nat) (amplitude : Option Float) (absent : Nat) :
    let explicit := hardware.writtenOut (hardware.lengthOf element operation duration absent)
    (∀ error, explicit.resolve element operation duration amplitude = .error error
      ↔ hardware.resolve element operation duration amplitude = .error error)
    ∧ ∀ samples, hardware.resolve element operation duration amplitude = .ok samples →
      ∃ written, explicit.resolve element operation duration amplitude = .ok written
        ∧ written.Alike samples
        ∧ ∀ factors, (written.scaledAll factors).Alike (samples.scaledAll factors) := by
  intro explicit
  have hcorresponds := corresponds_resolve hardware element operation duration amplitude absent
  refine ⟨hcorresponds.eq_error_iff, fun samples hsamples => ?_⟩
  rw [hsamples] at hcorresponds
  obtain ⟨written, hwritten, hpoints⟩ := hcorresponds.exists_ok
  exact ⟨written, hwritten, Samples.alike_of_points hpoints,
    fun factors => Samples.alike_of_points (Samples.points_scaledAll hpoints factors)⟩

/-- An element whose pulse has the same sample throughout. -/
def constantWaveform : Hardware where
  elements := .ofList [("qe1", ⟨none, none, .ofList [("saturate", "const_pulse")], none⟩)]
  pulses := .ofList [("const_pulse", ⟨"control", 2, .ofList [("I", "high")]⟩)]
  waveforms := .ofList [("high", .constant 0.25)]

/-- Three samples of a constant are kept as one point, or else as a list. -/
theorem constantWaveform_plays :
    let flat : Samples := .flat ⟨0.25, 0.0⟩ 3
    let listed : Samples := .listed [⟨0.25, 0.0⟩, ⟨0.25, 0.0⟩, ⟨0.25, 0.0⟩]
    constantWaveform.resolve "qe1" "saturate" (some 3) none = .ok flat
      ∧ (constantWaveform.writtenOut 3).resolve "qe1" "saturate" (some 3) none = .ok listed
      ∧ listed.Alike flat ∧ ∀ factors, (listed.scaledAll factors).Alike (flat.scaledAll factors) := by
  intro flat listed
  have hflat : constantWaveform.resolve "qe1" "saturate" (some 3) none = .ok flat := rfl
  have hlisted : (constantWaveform.writtenOut 3).resolve "qe1" "saturate" (some 3) none
      = .ok listed := rfl
  obtain ⟨written, hwritten, halike, hscaled⟩ :=
    (constants_play_as_written_out constantWaveform "qe1" "saturate" (some 3) none 0).2 _ hflat
  cases hlisted.symm.trans hwritten
  exact ⟨hflat, hlisted, halike, hscaled⟩

end Hardware

end PulseTimeline
