import PulseTimeline.Proofs.Codec.Program
import PulseTimeline.Proofs.Json.Parsing

set_option autoImplicit false

/-! # Programs survive storage

The document of a program is handed over as a tree in memory or as text. The tree is always read
back. The text is read back as well, as long as the document is nested no deeper than a reader of
text follows: what nests without bound in a program nests in its document too. -/

namespace PulseTimeline

/-! ## Documents with a legible text -/

namespace Json

theorem legible_scalar {json : Json} (h : json.ReadsBack) (hparts : json.parts = []) :
    json.Legible := by
  refine ⟨h, fun part hpart => ?_⟩
  rw [hparts] at hpart
  exact absurd hpart List.not_mem_nil

@[simp] theorem legible_null : null.Legible := legible_scalar trivial rfl

@[simp] theorem legible_bool (value : Bool) : (bool value).Legible := legible_scalar trivial rfl

@[simp] theorem legible_text (value : String) : (text value).Legible := legible_scalar trivial rfl

theorem legible_natural {n : Nat} (h : n < 1 <<< 64) : (int (Int.ofNat n)).Legible := by
  refine legible_scalar ⟨?_, Int.ofNat_lt.2 h⟩ rfl
  show -((1 <<< 63 : Nat) : Int) ≤ (n : Int)
  omega

theorem legible_float {x : Float} (h : (float x).ReadsBack) : (float x).Legible :=
  legible_scalar h rfl

@[simp] theorem legible_array_iff {items : List Json} :
    (array items).Legible ↔ ∀ item ∈ items, item.Legible := by
  constructor
  · rintro ⟨-, hinside⟩
    exact hinside
  · intro h
    exact ⟨trivial, h⟩

@[simp] theorem legible_object_iff {members : List (String × Json)} :
    (object members).Legible ↔ ∀ member ∈ members, member.2.Legible := by
  constructor
  · rintro ⟨-, hinside⟩ member hmember
    exact hinside member.2 (List.mem_map_of_mem hmember)
  · intro h
    refine ⟨trivial, fun part hpart => ?_⟩
    obtain ⟨member, hmember, rfl⟩ := List.mem_map.1 hpart
    exact h member hmember

@[simp] theorem legible_ofNames (names : List String) : (ofNames names).Legible := by
  simp [ofNames]

theorem legible_ofOption {α : Type} {encode : α → Json} {value : Option α}
    (h : ∀ a, value = some a → (encode a).Legible) : (ofOption encode value).Legible := by
  cases value with
  | none => exact legible_null
  | some a => exact h a rfl

end Json

namespace Expression

@[simp] theorem legible_encodeName (name : String) : (encodeName name).Legible := by
  simp [encodeName]

/-- Expressions are written with texts alone. -/
@[simp] theorem legible_encode : (expression : Expression) → expression.encode.Legible
  | reference name => by simp [encode]
  | literal text type => by
      have htype : (Json.ofOption ScalarType.encode type).Legible :=
        Json.legible_ofOption fun type _ => Json.legible_text _
      simp [encode, htype]
  | binary left operator right => by
      have hleft := left.legible_encode
      have hright := right.legible_encode
      simp [encode, hleft, hright]
  | unary operator operand => by
      have hoperand := operand.legible_encode
      simp [encode, hoperand]
  | call library function arguments => by
      have harguments : ∀ argument ∈ arguments, argument.encode.Legible :=
        fun argument _ => argument.legible_encode
      simpa [encode, encodeAll_eq_map] using harguments
  | cell array index => by
      have hindex := index.legible_encode
      simp [encode, hindex]

@[simp] theorem legible_ofOption_encode (expression : Option Expression) :
    (Json.ofOption encode expression).Legible :=
  Json.legible_ofOption fun expression _ => expression.legible_encode

end Expression

namespace Statement

@[simp] theorem legible_encodePulse (pulse : Pulse) : pulse.encode.Legible := by
  cases pulse <;> simp [Pulse.encode]

@[simp] theorem legible_encodeTarget (target : Target) : target.encode.Legible := by
  cases target <;> simp [Target.encode]

variable {block : List Statement} {branches : List (Expression × List Statement)}

theorem legible_encodeAll (h : ∀ statement ∈ block, statement.encode.Legible) :
    (Json.array (encodeAll block)).Legible := by
  rw [encodeAll_eq_map, Json.legible_array_iff, List.forall_mem_map]
  exact h

theorem legible_encodeGuarded (guard : String)
    (h : ∀ statement ∈ branches.flatMap Prod.snd, statement.encode.Legible) :
    (Json.array (encodeGuarded guard branches)).Legible := by
  rw [encodeGuarded_eq_map, Json.legible_array_iff, List.forall_mem_map]
  intro branch hbranch
  have hbody : (Json.array (encodeAll branch.2)).Legible := legible_encodeAll fun statement hmem =>
    h statement (subset_flatMap_snd hbranch hmem)
  rw [encodeAll_eq_map] at hbody
  simp [encodeBranch, hbody]

theorem legible_encodeOptional {block : Option (List Statement)}
    (h : ∀ statement ∈ block.getD [], statement.encode.Legible) :
    (encodeOptional block).Legible := by
  cases block with
  | none => exact Json.legible_null
  | some statements => exact legible_encodeAll h

/-- Statements are written with texts alone, and with null for what is absent. -/
theorem legible_encode (statement : Statement) : statement.encode.Legible := by
  induction statement using inner_induction with
  | h statement ih =>
      cases statement with
      | branch condition body elseIfs elseBody =>
          simp only [inner, List.mem_append, or_imp, forall_and] at ih
          obtain ⟨⟨hbody, helseIfs⟩, helseBody⟩ := ih
          simp [encode, legible_encodeAll hbody, legible_encodeGuarded "condition" helseIfs,
            legible_encodeOptional helseBody]
      | loop init condition update body =>
          simp only [inner, List.mem_append, or_imp, forall_and] at ih
          obtain ⟨⟨hinit, hupdate⟩, hbody⟩ := ih
          simp [encode, legible_encodeAll hinit, legible_encodeAll hupdate, legible_encodeAll hbody]
      | switch subject cases default =>
          simp only [inner, List.mem_append, or_imp, forall_and] at ih
          obtain ⟨hcases, hdefault⟩ := ih
          simp [encode, legible_encodeGuarded "value" hcases, legible_encodeOptional hdefault]
      | strictTiming body =>
          have hbody : ∀ statement ∈ body, statement.encode.Legible := ih
          simp [encode, legible_encodeAll hbody]
      | measure element operation =>
          have hoperation : (Json.ofOption .text operation).Legible :=
            Json.legible_ofOption fun name _ => Json.legible_text name
          simp [encode, hoperation]
      | _ => simp [encode]

end Statement

/-! ## Definitions and programs -/

/-- What is written for the double in a value, if it is one, is read as that double. -/
def Value.HasExactDigits (value : Value) : Prop :=
  ∀ x, value = .real x → Json.readNumber? (Json.renderFloat x).toList = some (.float x)

theorem Value.legible_encode {value : Value} (h : value.HasExactDigits) : value.encode.Legible := by
  cases value with
  | int n =>
      have hint : (Json.int n.toInt).Legible := by
        refine Json.legible_scalar ⟨n.le_toInt, ?_⟩ rfl
        exact Int.lt_of_lt_of_le n.toInt_lt (by decide)
      simp [encode, hint]
  | real x =>
      have hfloat : (Json.float x).Legible := Json.legible_float (h x rfl)
      simp [encode, hfloat]
  | bool b => simp [encode]

theorem Definition.legible_encode {definition : Definition} (hstorable : definition.IsStorable)
    (h : ∀ value ∈ definition.values, value.HasExactDigits) : definition.encode.Legible := by
  cases definition with
  | scalar name type value =>
      have hvalue := Value.legible_encode (h value (List.mem_singleton.2 rfl))
      simp [encode, ScalarType.encode, hvalue]
  | array name type values size =>
      have hvalues : ∀ value ∈ values, value.encode.Legible := fun value hmem =>
        Value.legible_encode (h value hmem)
      have hsize := hstorable.size name type values size rfl
      simpa [encode, ScalarType.encode] using ⟨hvalues, Json.legible_natural hsize⟩

theorem Program.legible_encode {program : Program}
    (hstorable : ∀ definition ∈ program.definitions, definition.IsStorable)
    (h : ∀ definition ∈ program.definitions, ∀ value ∈ definition.values, value.HasExactDigits) :
    program.encode.Legible := by
  have hbody := Statement.legible_encodeAll fun statement (_ : statement ∈ program.body) =>
    statement.legible_encode
  have hdefinitions : ∀ definition ∈ program.definitions, definition.encode.Legible :=
    fun definition hmem => Definition.legible_encode (hstorable definition hmem) (h definition hmem)
  simp only [Json.legible_array_iff] at hbody
  simpa [encode] using ⟨hbody, hdefinitions⟩

namespace Program

/-- **Programs survive storage.** A program is read back from its tree in memory, and from its text
    if the digits of its doubles are exact and if its document is nested no deeper than the reader
    of text follows. -/
theorem survives_storage {program : Program}
    (hstorable : ∀ definition ∈ program.definitions, definition.IsStorable) :
    decode program.encode.inMemory = .ok program ∧
      ((∀ definition ∈ program.definitions, ∀ value ∈ definition.values, value.HasExactDigits) →
        program.encode.height ≤ Json.maxNesting →
          ofStored program.encode.render = .ok program) := by
  refine ⟨decode_encode Json.presents_inMemory hstorable, fun hdigits hheight => ?_⟩
  have hread : Json.read? program.encode.render = some program.encode :=
    Json.read?_render_eq_self (legible_encode hstorable hdigits) hheight
  rw [ofStored, hread]
  exact decode_encode Json.presents_id hstorable

/-- A program in which one branch has an empty block for all else, and the branch inside it has none
    at all. -/
def withEmptyElse : Program where
  body := [.branch (.reference "ready")
    [.branch (.unary .not (.cell "flags" (.literal "0" none))) [.save (.reference "gain") "gains"]
      [] none]
    [(.literal "true" (some .bool), [])] (some [])]
  definitions := [.scalar "gain" .real (.real 0.1), .array "flags" .int [.int (-1)] 2]

/-- An empty block and an absent one are told apart, and a tenth comes back from its digits. -/
theorem emptyElse_survives :
    (∀ definition ∈ withEmptyElse.definitions, definition.IsStorable) ∧
      (∀ definition ∈ withEmptyElse.definitions,
        ∀ value ∈ definition.values, value.HasExactDigits) ∧
      withEmptyElse.encode.height ≤ Json.maxNesting ∧
      decode withEmptyElse.encode.inMemory = .ok withEmptyElse ∧
      ofStored withEmptyElse.encode.render = .ok withEmptyElse := by
  have hstorable : ∀ definition ∈ withEmptyElse.definitions, definition.IsStorable := by
    refine List.forall_mem_cons.2 ⟨⟨?_, ?_⟩, List.forall_mem_singleton.2 ⟨?_, ?_⟩⟩
    · refine List.forall_mem_singleton.2 fun x hx => ?_
      cases hx
      decide
    · intro name type values size hdefinition
      cases hdefinition
    · refine List.forall_mem_singleton.2 fun x hx => ?_
      cases hx
    · intro name type values size hdefinition
      cases hdefinition
      decide
  have hdigits : ∀ definition ∈ withEmptyElse.definitions,
      ∀ value ∈ definition.values, value.HasExactDigits := by
    refine List.forall_mem_cons.2 ⟨?_, List.forall_mem_singleton.2 ?_⟩
    · refine List.forall_mem_singleton.2 fun x hx => ?_
      cases hx
      rfl
    · refine List.forall_mem_singleton.2 fun x hx => ?_
      cases hx
  have hheight : withEmptyElse.encode.height ≤ Json.maxNesting := by decide
  obtain ⟨hmemory, htext⟩ := survives_storage hstorable
  exact ⟨hstorable, hdigits, hheight, hmemory, htext hdigits hheight⟩

/-- Blocks of strict timing, one inside the other. -/
def nestedTiming : Nat → Statement
  | 0 => .strictTiming []
  | depth + 1 => .strictTiming [nestedTiming depth]

/-- A program of forty-two blocks inside one another, one level deeper than text is read. -/
def deepTiming : Program := ⟨[nestedTiming 41], []⟩

set_option maxRecDepth 8000 in
theorem deepTiming_is_lost :
    (∀ definition ∈ deepTiming.definitions, definition.IsStorable) ∧
      (∀ definition ∈ deepTiming.definitions,
        ∀ value ∈ definition.values, value.HasExactDigits) ∧
      ofStored deepTiming.encode.render ≠ .ok deepTiming := by
  have hstorable : ∀ definition ∈ deepTiming.definitions, definition.IsStorable :=
    fun _ hmem => absurd hmem List.not_mem_nil
  have hdigits : ∀ definition ∈ deepTiming.definitions,
      ∀ value ∈ definition.values, value.HasExactDigits :=
    fun _ hmem => absurd hmem List.not_mem_nil
  have herror : ofStored deepTiming.encode.render = .error .malformed := by
    rw [ofStored, Json.read?_render (legible_encode hstorable hdigits)]
    rfl
  refine ⟨hstorable, hdigits, fun hread => ?_⟩
  rw [herror] at hread
  cases hread

end Program

end PulseTimeline
