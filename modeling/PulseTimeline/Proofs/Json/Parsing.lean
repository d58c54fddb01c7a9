import Mathlib.Data.List.Forall2
import PulseTimeline.Json.Reader
import PulseTimeline.Proofs.Json.Lexing

set_option autoImplicit false

/-! # What is read from a written document

The reader finds in the tokens of a document the document again, except that arrays and objects are
unreadable where they are nested deeper than the reader follows. -/

namespace PulseTimeline.Json

/-! ## The depth that is read -/

mutual

/-- A document in which arrays and objects are unreadable from some depth on. -/
def cut : Nat → Json → Json
  | 0, array _ => unreadable
  | 0, object _ => unreadable
  | depth + 1, array items => array (cutItems depth items)
  | depth + 1, object members => object (cutMembers depth members)
  | _, scalar => scalar

/-- Items that are cut at some depth. -/
def cutItems : Nat → List Json → List Json
  | _, [] => []
  | depth, item :: rest => cut depth item :: cutItems depth rest

/-- Members with values that are cut at some depth. -/
def cutMembers : Nat → List (String × Json) → List (String × Json)
  | _, [] => []
  | depth, (key, value) :: rest => (key, cut depth value) :: cutMembers depth rest

end

theorem cutItems_eq (depth : Nat) (items : List Json) :
    cutItems depth items = items.map (cut depth) := by
  induction items with
  | nil => rw [cutItems, List.map_nil]
  | cons item rest ih => rw [cutItems, List.map_cons, ih]

theorem cutMembers_eq (depth : Nat) (members : List (String × Json)) :
    cutMembers depth members = members.map fun member => (member.1, cut depth member.2) := by
  induction members with
  | nil => rw [cutMembers, List.map_nil]
  | cons member rest ih => rw [cutMembers, List.map_cons, ih]

theorem cut_scalar {json : Json} (hheight : json.height = 0) (depth : Nat) :
    cut depth json = json := by
  cases json <;> cases depth <;> first | rfl | cases hheight

theorem cut_array (depth : Nat) (items : List Json) :
    cut depth (array items)
      = if 0 < depth then array (cutItems (depth - 1) items) else unreadable := by
  cases depth <;> rfl

theorem cut_object (depth : Nat) (members : List (String × Json)) :
    cut depth (object members)
      = if 0 < depth then object (cutMembers (depth - 1) members) else unreadable := by
  cases depth <;> rfl

/-- Nothing is lost if the document is nested no deeper. -/
theorem cut_eq_self (json : Json) :
    ∀ {depth : Nat}, json.height ≤ depth → cut depth json = json := by
  induction json using parts_induction with
  | step json ih =>
      intro depth hheight
      cases json with
      | array items =>
          have hpositive : 0 < depth := Nat.lt_of_lt_of_le (Nat.succ_pos _) hheight
          have hitems : ∀ item ∈ items, cut (depth - 1) item = id item := by
            intro item hitem
            have hlt := height_lt_of_mem_items hitem
            exact ih item hitem (by omega)
          rw [cut_array, if_pos hpositive, cutItems_eq, List.map_congr_left hitems, List.map_id]
      | object members =>
          have hpositive : 0 < depth := Nat.lt_of_lt_of_le (Nat.succ_pos _) hheight
          have hmembers : ∀ member ∈ members,
              (member.1, cut (depth - 1) member.2) = id member := by
            intro member hmember
            have hlt := height_lt_of_mem_members hmember
            rw [ih member.2 (List.mem_map_of_mem hmember) (by omega)]
            rfl
          rw [cut_object, if_pos hpositive, cutMembers_eq, List.map_congr_left hmembers,
            List.map_id]
      | _ => exact cut_scalar rfl depth

/-! ## Runs of the reader -/

/-- Elements with commas between them: each is put on top of what is held. -/
theorem foldlM_intercalate {α : Type} (start ended : Option (List α) → ReadState)
    (hcomma : ∀ held, ReadState.step (ended held) .comma = some (start held))
    {spelled : List (List Token)} {values : List α}
    (h : List.Forall₂ (fun tokens value => ∀ held, tokens.foldlM ReadState.step (start held)
      = some (ended (held.map fun before => value :: before))) spelled values)
    (hne : spelled ≠ []) (held : Option (List α)) :
    ([Token.comma].intercalate spelled).foldlM ReadState.step (start held)
      = some (ended (held.map fun before => values.reverse ++ before)) := by
  induction h generalizing held with
  | nil => exact absurd rfl hne
  | @cons first value spelled values hfirst hrest ih =>
      cases hrest with
      | nil => simpa using hfirst held
      | @cons second _ spelled _ _ _ =>
          simp only [List.intercalate_cons_cons, List.foldlM_append, List.foldlM_cons,
            List.foldlM_nil, hfirst, hcomma, Option.bind_eq_bind, Option.bind_some, Option.pure_def]
          rw [ih (List.cons_ne_nil _ _)]
          cases held <;> simp

/-- Where a value is expected, the tokens of a document lead to the document, cut to what may still
    be nested there, in its place. -/
def IsRead (json : Json) : Prop :=
  ∀ stack, json.tokens.foldlM ReadState.step ⟨.value, stack⟩
    = ReadState.finish (cut (maxNesting - stack.length) json) stack

/-- The values of a newly opened array or object. -/
theorem closed_opened {α : Type} (build : List α → Json) (mode : ReadMode) (stack : List Frame)
    (values : List α) :
    closed build ((ReadState.opened ⟨mode, stack⟩).map fun before => values.reverse ++ before)
      = if 0 < maxNesting - stack.length then build values else unreadable := by
  by_cases h : stack.length < maxNesting
  · have hpositive : 0 < maxNesting - stack.length := by omega
    simp [ReadState.opened, h, hpositive, closed]
  · have hzero : ¬ 0 < maxNesting - stack.length := by omega
    simp [ReadState.opened, h, hzero, closed]

theorem foldlM_items {items : List Json} (h : ∀ item ∈ items, IsRead item) (hne : items ≠ [])
    (held : Option (List Json)) (stack : List Frame) :
    ([Token.comma].intercalate (tokensOfItems items)).foldlM ReadState.step
        ⟨.value, .array held :: stack⟩
      = some ⟨.separator, .array (held.map fun before =>
          (cutItems (maxNesting - stack.length - 1) items).reverse ++ before) :: stack⟩ := by
  rw [tokensOfItems_eq, cutItems_eq]
  refine foldlM_intercalate (fun held => ⟨.value, .array held :: stack⟩)
    (fun held => ⟨.separator, .array held :: stack⟩) (fun held => rfl) ?_ (by simpa using hne) held
  rw [List.forall₂_map_left_iff, List.forall₂_map_right_iff, List.forall₂_same]
  intro item hitem held
  rw [h item hitem, Nat.sub_sub]
  rfl

theorem foldlM_members {members : List (String × Json)} (h : ∀ member ∈ members, IsRead member.2)
    (hne : members ≠ []) (held : Option (List (String × Json))) (stack : List Frame) :
    ([Token.comma].intercalate (tokensOfMembers members)).foldlM ReadState.step
        ⟨.key, .object held :: stack⟩
      = some ⟨.separator, .object (held.map fun before =>
          (cutMembers (maxNesting - stack.length - 1) members).reverse ++ before) :: stack⟩ := by
  rw [tokensOfMembers_eq, cutMembers_eq]
  refine foldlM_intercalate (fun held => ⟨.key, .object held :: stack⟩)
    (fun held => ⟨.separator, .object held :: stack⟩) (fun held => rfl) ?_ (by simpa using hne) held
  rw [List.forall₂_map_left_iff, List.forall₂_map_right_iff, List.forall₂_same]
  intro member hmember held
  show member.2.tokens.foldlM ReadState.step ⟨.value, .entry held (some member.1) :: stack⟩ = _
  rw [h member hmember, Nat.sub_sub]
  cases held <;> rfl

theorem exists_intercalate_eq (first : List Token) (more : List (List Token)) :
    ∃ rest, [Token.comma].intercalate (first :: more) = first ++ rest := by
  cases more with
  | nil => exact ⟨[], by simp⟩
  | cons second more => exact ⟨_, by rw [List.intercalate_cons_cons, List.append_assoc]⟩

/-- No document begins with the token that ends an array. -/
theorem foldlM_valueOrEnd (json : Json) (rest : List Token) (stack : List Frame) :
    (json.tokens ++ rest).foldlM ReadState.step ⟨.valueOrEnd, stack⟩
      = (json.tokens ++ rest).foldlM ReadState.step ⟨.value, stack⟩ := by
  cases json <;> rfl

theorem foldlM_keyOrEnd (member : String × Json) (rest : List Token) (stack : List Frame) :
    (tokensOfMember member ++ rest).foldlM ReadState.step ⟨.keyOrEnd, stack⟩
      = (tokensOfMember member ++ rest).foldlM ReadState.step ⟨.key, stack⟩ := rfl

theorem isRead_array {items : List Json} (h : ∀ item ∈ items, IsRead item) :
    IsRead (array items) := by
  intro stack
  rw [cut_array, ← closed_opened array .value stack, tokens, List.cons_append, List.foldlM_cons]
  generalize hopened : ReadState.opened ⟨.value, stack⟩ = opened
  have hopen : ReadState.step ⟨.value, stack⟩ .openBracket
      = some ⟨.valueOrEnd, .array opened :: stack⟩ := by
    rw [← hopened]
    rfl
  rw [hopen, Option.bind_eq_bind, Option.bind_some]
  cases items with
  | nil =>
      show (ReadState.finish (closed array opened) stack >>= _) = _
      cases opened <;> simp [closed, cutItems]
  | cons first rest =>
      obtain ⟨others, hothers⟩ := exists_intercalate_eq first.tokens (tokensOfItems rest)
      have hitems := foldlM_items h (List.cons_ne_nil _ _) opened stack
      rw [tokensOfItems, hothers] at hitems ⊢
      rw [List.append_assoc, foldlM_valueOrEnd, ← List.append_assoc, List.foldlM_append, hitems]
      show (ReadState.finish _ stack >>= _) = _
      simp

theorem isRead_object {members : List (String × Json)} (h : ∀ member ∈ members, IsRead member.2) :
    IsRead (object members) := by
  intro stack
  rw [cut_object, ← closed_opened object .value stack, tokens, List.cons_append, List.foldlM_cons]
  generalize hopened : ReadState.opened ⟨.value, stack⟩ = opened
  have hopen : ReadState.step ⟨.value, stack⟩ .openBrace
      = some ⟨.keyOrEnd, .object opened :: stack⟩ := by
    rw [← hopened]
    rfl
  rw [hopen, Option.bind_eq_bind, Option.bind_some]
  cases members with
  | nil =>
      show (ReadState.finish (closed object opened) stack >>= _) = _
      cases opened <;> simp [closed, cutMembers]
  | cons first rest =>
      obtain ⟨others, hothers⟩ :=
        exists_intercalate_eq (tokensOfMember first) (tokensOfMembers rest)
      have hmembers := foldlM_members h (List.cons_ne_nil _ _) opened stack
      rw [tokensOfMembers_eq, List.map_cons, ← tokensOfMembers_eq, hothers] at hmembers ⊢
      rw [List.append_assoc, foldlM_keyOrEnd, ← List.append_assoc, List.foldlM_append, hmembers]
      show (ReadState.finish _ stack >>= _) = _
      simp

theorem isRead (json : Json) : json.IsRead := by
  induction json using parts_induction with
  | step json ih =>
      cases json with
      | array items => exact isRead_array ih
      | object members =>
          exact isRead_object fun member hmember => ih member.2 (List.mem_map_of_mem hmember)
      | _ =>
          intro stack
          rw [cut_scalar rfl]
          exact bind_pure _

/-! ## Documents from their texts -/

/-- What is read from the text of a document. -/
theorem read?_render {json : Json} (h : json.Legible) :
    read? json.render = some (cut maxNesting json) := by
  rw [read?, tokens?_render h, Option.bind_eq_bind, Option.bind_some, ofTokens?, isRead json []]
  rfl

/-- A document is read from its text if it is nested no deeper than the reader follows. -/
theorem read?_render_eq_self {json : Json} (h : json.Legible) (hheight : json.height ≤ maxNesting) :
    read? json.render = some json := by
  rw [read?_render h, cut_eq_self json hheight]

end PulseTimeline.Json
