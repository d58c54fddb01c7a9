import PulseTimeline.Proofs.Waveform.Points
import PulseTimeline.Proofs.Waveform.Resolution

set_option autoImplicit false

/-! # What an operation plays

An operation of an element names a pulse, and the pulse names a waveform for the in-phase signal
and possibly one for the quadrature signal. The operation can be played exactly if all of these are
configured and every list of samples among them has the length that is asked for. Each point is then
made of the samples of both waveforms at its index, so that no sample is ever looked for where there
is none. -/

namespace PulseTimeline

/-! ## Waveforms -/

namespace Waveform

/-- The sample of a waveform at an index, if there is one. -/
def sample? : Waveform → Nat → Option Float
  | constant sample, _ => some sample
  | arbitrary samples, index => samples[index]?

/-- The sample of a waveform at an index, or a given one where there is none. -/
def sampleOr (absent : Float) (waveform : Waveform) (index : Nat) : Float :=
  (waveform.sample? index).getD absent

/-- A constant has any length, a list of samples its own. -/
def Fits (length : Nat) : Waveform → Prop
  | constant _ => True
  | arbitrary samples => samples.length = length

theorem sample_eq (waveform : Waveform) : waveform.sample = waveform.sampleOr 0.0 := by
  cases waveform <;> rfl

variable {waveform : Waveform} {length index : Nat}

theorem Fits.exists_sample? (h : waveform.Fits length) (hindex : index < length) :
    ∃ x, waveform.sample? index = some x := by
  cases waveform with
  | constant x => exact ⟨x, rfl⟩
  | arbitrary samples =>
      have hlength : samples.length = length := h
      exact ⟨_, List.getElem?_eq_getElem (hlength ▸ hindex)⟩

theorem sampleOr_eq {x : Float} (h : waveform.sample? index = some x) (absent : Float) :
    waveform.sampleOr absent index = x := by
  rw [sampleOr, h, Option.getD_some]

end Waveform

/-! ## Samples that play waveforms -/

namespace Samples

/-- Samples have the given length, and each of their points is made of the samples that both
    waveforms have at its index, each of them multiplied by the amplitude if there is one. What a
    waveform would have behind its last sample does not matter. -/
structure Plays (samples : Samples) (length : Nat) (i q : Waveform) (amplitude : Option Float) :
    Prop where
  count : samples.count = length
  inPhases : samples.quadratures.1.length = length
  quadratures : samples.quadratures.2.length = length
  get : ∀ index < length, ∃ x y, i.sample? index = some x ∧ q.sample? index = some y
    ∧ samples.get? index = some (amplitude.elim ⟨x, y⟩ fun a => ⟨x * a, y * a⟩)
  points : ∀ absent, samples.points = (List.range length).map fun index =>
    let x := i.sampleOr absent index
    let y := q.sampleOr absent index
    amplitude.elim ⟨x, y⟩ fun a => ⟨x * a, y * a⟩

variable {length : Nat} {i q : Waveform} {amplitude : Option Float}

theorem points_of_fits (hi : i.Fits length) (hq : q.Fits length) (absent : Float) :
    ((ofWaveforms length i q).scaledBy amplitude).points = (List.range length).map fun index =>
      let x := i.sampleOr absent index
      let y := q.sampleOr absent index
      amplitude.elim ⟨x, y⟩ fun a => ⟨x * a, y * a⟩ := by
  rw [points_scaledBy, points_ofWaveforms, List.map_map]
  refine List.map_congr_left fun index hindex => ?_
  obtain ⟨x, hx⟩ := hi.exists_sample? (List.mem_range.1 hindex)
  obtain ⟨y, hy⟩ := hq.exists_sample? (List.mem_range.1 hindex)
  simp only [Function.comp_apply, Waveform.sample_eq, Waveform.sampleOr_eq hx,
    Waveform.sampleOr_eq hy]

/-- Waveforms that have the length are played with it. -/
theorem plays_ofWaveforms (hi : i.Fits length) (hq : q.Fits length) :
    ((ofWaveforms length i q).scaledBy amplitude).Plays length i q amplitude := by
  have hcount : ((ofWaveforms length i q).scaledBy amplitude).count = length := by
    rw [count_scaledBy, count_ofWaveforms]
  refine ⟨hcount, by rw [length_quadratures_fst, hcount], by rw [length_quadratures_snd, hcount],
    fun index hindex => ?_, points_of_fits hi hq⟩
  obtain ⟨x, hx⟩ := hi.exists_sample? hindex
  obtain ⟨y, hy⟩ := hq.exists_sample? hindex
  refine ⟨x, y, hx, hy, ?_⟩
  rw [get?_eq, points_of_fits hi hq 0.0, List.getElem?_map, List.getElem?_range hindex,
    Option.map_some, Waveform.sampleOr_eq hx, Waveform.sampleOr_eq hy]

end Samples

/-! ## Waveforms of a pulse -/

namespace Hardware

variable {hardware : Hardware} {element operation name : String} {length : Nat}

theorem fittingWaveform_eq_ok_iff {waveform : Waveform} :
    hardware.fittingWaveform name length = .ok waveform
      ↔ hardware.waveforms.find? name = some waveform ∧ waveform.Fits length := by
  unfold fittingWaveform
  cases hfound : hardware.waveforms.find? name with
  | none => simp
  | some found => cases found with
    | constant x =>
        simp only [Except.ok.injEq, Option.some.injEq]
        exact ⟨fun h => ⟨h, h ▸ trivial⟩, And.left⟩
    | arbitrary samples =>
        by_cases hlength : samples.length = length
        · simp only [if_pos hlength, Except.ok.injEq, Option.some.injEq]
          exact ⟨fun h => ⟨h, h ▸ hlength⟩, And.left⟩
        · simp only [if_neg hlength, reduceCtorEq, Option.some.injEq, false_iff]
          rintro ⟨rfl, hfits⟩
          exact hlength hfits

/-- The waveform that a pulse names for the quadrature signal, if it names one. -/
inductive Quadrature (hardware : Hardware) (pulse : PulseShape) : Option Waveform → Prop where
  | lacking (h : pulse.waveforms.find? "Q" = none) : Quadrature hardware pulse none
  | named {name : String} {waveform : Waveform} (h : pulse.waveforms.find? "Q" = some name)
    (hfound : hardware.waveforms.find? name = some waveform) :
    Quadrature hardware pulse (some waveform)

theorem fittingQuadrature_eq_ok_iff {pulse : PulseShape} {waveform : Waveform} :
    hardware.fittingQuadrature pulse length = .ok waveform
      ↔ ∃ q, hardware.Quadrature pulse q ∧ (∀ named ∈ q, named.Fits length)
        ∧ waveform = q.getD (.constant 0.0) := by
  unfold fittingQuadrature
  cases hname : pulse.waveforms.find? "Q" with
  | none =>
      constructor
      · intro h
        cases h
        exact ⟨none, .lacking hname, nofun, rfl⟩
      · rintro ⟨q, hq, -, rfl⟩
        cases hq with
        | lacking h => rfl
        | named h hfound => cases hname.symm.trans h
  | some name =>
      simp only [fittingWaveform_eq_ok_iff]
      constructor
      · rintro ⟨hfound, hfits⟩
        refine ⟨some waveform, .named hname hfound, fun named hnamed => ?_, rfl⟩
        cases hnamed
        exact hfits
      · rintro ⟨q, hq, hfits, rfl⟩
        cases hq with
        | lacking h => cases hname.symm.trans h
        | named h hfound =>
            cases hname.symm.trans h
            exact ⟨hfound, hfits _ rfl⟩

/-! ## Operations -/

/-- The pulse that an operation of an element names, and the waveforms that it names in turn, are
    all configured. -/
structure Drives (hardware : Hardware) (element operation : String) (pulse : PulseShape)
    (i : Waveform) (q : Option Waveform) : Prop where
  inPhase : ∃ iName, hardware.Names element operation pulse iName
    ∧ hardware.waveforms.find? iName = some i
  quadrature : hardware.Quadrature pulse q

variable {duration : Option Nat} {amplitude : Option Float} {samples : Samples}

theorem resolve_eq_ok_iff :
    hardware.resolve element operation duration amplitude = .ok samples
      ↔ ∃ pulse i q, hardware.Drives element operation pulse i q
        ∧ i.Fits (duration.getD pulse.length)
        ∧ (∀ named ∈ q, named.Fits (duration.getD pulse.length))
        ∧ samples = (Samples.ofWaveforms (duration.getD pulse.length) i
            (q.getD (.constant 0.0))).scaledBy amplitude := by
  rw [resolve_eq, except_bind_eq_ok]
  constructor
  · rintro ⟨⟨pulse, iName⟩, hnames, h⟩
    obtain ⟨i, hi, h⟩ := except_bind_eq_ok.1 h
    obtain ⟨waveform, hq, h⟩ := except_bind_eq_ok.1 h
    obtain ⟨hfound, hfitsI⟩ := fittingWaveform_eq_ok_iff.1 hi
    obtain ⟨q, hquadrature, hfitsQ, rfl⟩ := fittingQuadrature_eq_ok_iff.1 hq
    cases h
    exact ⟨pulse, i, q, ⟨⟨iName, lookUp_eq_ok_iff.1 hnames, hfound⟩, hquadrature⟩, hfitsI, hfitsQ,
      rfl⟩
  · rintro ⟨pulse, i, q, ⟨⟨iName, hnames, hfound⟩, hquadrature⟩, hfitsI, hfitsQ, rfl⟩
    have hi := fittingWaveform_eq_ok_iff.2 ⟨hfound, hfitsI⟩
    have hq := fittingQuadrature_eq_ok_iff.2 ⟨q, hquadrature, hfitsQ, rfl⟩
    exact ⟨⟨pulse, iName⟩, lookUp_eq_ok_iff.2 hnames,
      except_bind_eq_ok.2 ⟨i, hi, except_bind_eq_ok.2 ⟨_, hq, rfl⟩⟩⟩

/-- There is at most one choice of all that an operation drives. -/
theorem Drives.unique {pulse pulse' : PulseShape} {i i' : Waveform} {q q' : Option Waveform}
    (h : hardware.Drives element operation pulse i q)
    (h' : hardware.Drives element operation pulse' i' q') : pulse = pulse' ∧ i = i' ∧ q = q' := by
  obtain ⟨⟨iName, hnames, hi⟩, hq⟩ := h
  obtain ⟨⟨iName', hnames', hi'⟩, hq'⟩ := h'
  cases (lookUp_eq_ok_iff.2 hnames).symm.trans (lookUp_eq_ok_iff.2 hnames')
  cases hi.symm.trans hi'
  refine ⟨rfl, rfl, ?_⟩
  cases hq with
  | lacking hlacking => cases hq' with
    | lacking => rfl
    | named hname => cases hlacking.symm.trans hname
  | named hname hfound => cases hq' with
    | lacking hlacking => cases hlacking.symm.trans hname
    | named hname' hfound' =>
        cases hname.symm.trans hname'
        exact hfound.symm.trans hfound'

/-- **An operation plays the waveforms that it names.** It is resolved exactly if the element, its
    operation, the pulse and the waveforms of the pulse are configured, and every list of samples
    among them has the length that is asked for or that the pulse is configured with. The samples
    are then those of the waveforms, or zero for a quadrature signal without one, multiplied by the
    amplitude if one is given, and no list of samples is read behind its end. -/
theorem operations_play_their_waveforms (hardware : Hardware) (element operation : String)
    (duration : Option Nat) (amplitude : Option Float) :
    ((∃ samples, hardware.resolve element operation duration amplitude = .ok samples)
      ↔ ∃ pulse i q, hardware.Drives element operation pulse i q
        ∧ i.Fits (duration.getD pulse.length)
        ∧ ∀ named ∈ q, named.Fits (duration.getD pulse.length))
    ∧ ∀ samples pulse i q,
      hardware.resolve element operation duration amplitude = .ok samples →
      hardware.Drives element operation pulse i q →
      samples.Plays (duration.getD pulse.length) i (q.getD (.constant 0.0)) amplitude := by
  refine ⟨⟨?_, ?_⟩, ?_⟩
  · rintro ⟨samples, h⟩
    obtain ⟨pulse, i, q, hdrives, hi, hq, -⟩ := resolve_eq_ok_iff.1 h
    exact ⟨pulse, i, q, hdrives, hi, hq⟩
  · rintro ⟨pulse, i, q, hdrives, hi, hq⟩
    exact ⟨_, resolve_eq_ok_iff.2 ⟨pulse, i, q, hdrives, hi, hq, rfl⟩⟩
  · intro samples pulse i q h hdrives
    obtain ⟨pulse', i', q', hdrives', hi, hq, rfl⟩ := resolve_eq_ok_iff.1 h
    obtain ⟨rfl, rfl, rfl⟩ := hdrives.unique hdrives'
    refine Samples.plays_ofWaveforms hi ?_
    cases q with
    | none => trivial
    | some named => exact hq named rfl

/-- An element whose pulse names no waveform but a list of samples as its single one. -/
def singleWaveform : Hardware where
  elements := .ofList [("qe1", ⟨none, none, .ofList [("saturate", "const_pulse")], none⟩)]
  pulses := .ofList [("const_pulse", ⟨"control", 2, .ofList [("single", "rise")]⟩)]
  waveforms := .ofList [("rise", .arbitrary [0.25, 0.5])]

/-- A list of two samples is played with its own length and twice its size, and the quadrature
    signal is zero. It is not stretched to three samples. -/
theorem singleWaveform_plays :
    ∃ samples, singleWaveform.resolve "qe1" "saturate" none (some 2.0) = .ok samples
      ∧ samples.Plays 2 (.arbitrary [0.25, 0.5]) (.constant 0.0) (some 2.0)
      ∧ samples.get? 1 = some ⟨1.0, 0.0⟩
      ∧ ¬ ∃ samples, singleWaveform.resolve "qe1" "saturate" (some 3) none = .ok samples := by
  have hdrives : singleWaveform.Drives "qe1" "saturate"
      ⟨"control", 2, .ofList [("single", "rise")]⟩ (.arbitrary [0.25, 0.5]) none :=
    ⟨⟨"rise", ⟨⟨_, _, rfl, rfl, rfl⟩, .single rfl rfl⟩, rfl⟩, .lacking rfl⟩
  obtain ⟨hresolved, hplays⟩ := operations_play_their_waveforms singleWaveform "qe1" "saturate" none
    (some 2.0)
  obtain ⟨samples, h⟩ := hresolved.2 ⟨_, _, _, hdrives, rfl, nofun⟩
  refine ⟨samples, h, hplays _ _ _ _ h hdrives, ?_, ?_⟩
  · obtain ⟨x, y, hx, hy, hget⟩ := (hplays _ _ _ _ h hdrives).get 1 (by decide)
    cases hx
    cases hy
    exact hget.trans (by decide)
  · intro hstretched
    obtain ⟨pulse, i, q, hother, hfits, -⟩ :=
      (operations_play_their_waveforms singleWaveform "qe1" "saturate" (some 3) none).1.1 hstretched
    obtain ⟨rfl, rfl, -⟩ := hdrives.unique hother
    have hlength : 2 = 3 := hfits
    exact absurd hlength (by decide)

end Hardware

end PulseTimeline
