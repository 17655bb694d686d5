import Mathlib.Data.List.Perm.Basic
import Mathlib.Tactic.MkIffOfInductiveProp
import AbiBindings.Abi.ParameterValue

/-!
# Parameters survive as values

A parameter that is written as a value is read back as it was, with components at any depth. The
order of the members of an object does not matter, in the object of the parameter or in those of its
components: what a value states is told key by key (`ofMembers?_eq_some_iff`). Hence no two
parameters are written as the same value (`parameters_survive_as_values`).
-/

set_option autoImplicit false

namespace AbiBindings.Json

mutual

/-- Whether two values are the same but for the order of the members of objects. -/
inductive Value.Reordered : Value → Value → Prop
  | refl (v : Value) : Reordered v v
  | array {vs ws : List Value} (h : ElementsReordered vs ws) : Reordered (.array vs) (.array ws)
  | object {ms ns : List (String × Value)} (h : MembersReordered ms ns) :
    Reordered (.object ms) (.object ns)

/-- Whether the elements of two arrays are the same but for that order. -/
inductive Value.ElementsReordered : List Value → List Value → Prop
  | nil : ElementsReordered [] []
  | cons {v w : Value} {vs ws : List Value} (h : Reordered v w) (hrest : ElementsReordered vs ws) :
    ElementsReordered (v :: vs) (w :: ws)

/-- Whether the members of two objects are the same but for their order and that in their values. -/
inductive Value.MembersReordered : List (String × Value) → List (String × Value) → Prop
  | nil : MembersReordered [] []
  | cons {v w : Value} {ms ns : List (String × Value)} (key : String) (h : Reordered v w)
    (hrest : MembersReordered ms ns) : MembersReordered ((key, v) :: ms) ((key, w) :: ns)
  | swap (m n : String × Value) (ms : List (String × Value)) :
    MembersReordered (m :: n :: ms) (n :: m :: ms)
  | trans {ls ms ns : List (String × Value)} (h : MembersReordered ls ms)
    (h' : MembersReordered ms ns) : MembersReordered ls ns

end

/-- Members in another order are reordered. -/
theorem Value.membersReordered_of_perm {ms ns : List (String × Value)} (h : ms.Perm ns) :
    Value.MembersReordered ms ns := by
  induction h with
  | nil => exact .nil
  | cons m _ ih => exact .cons m.1 (.refl m.2) ih
  | swap m n ms => exact .swap n m ms
  | trans _ _ ih ih' => exact .trans ih ih'

/-- The values of the members of an object under a key. -/
def valuesAt (key : String) (members : List (String × Value)) : List Value :=
  (members.filter fun m => m.1 = key).map Prod.snd

/-- A member adds its value to those under its key. -/
theorem valuesAt_cons (key : String) (m : String × Value) (ms : List (String × Value)) :
    valuesAt key (m :: ms) = if m.1 = key then m.2 :: valuesAt key ms else valuesAt key ms := by
  unfold valuesAt
  split <;> simp [*]

end AbiBindings.Json

namespace AbiBindings.Abi

open Json

/-! ## What an object states -/

/-- Whether a field that was read earlier, or not, has been read after the values under its key: a
field is read once, from one value. -/
def Stated {α : Type} (read : Value → Option α) (values : List Value) (earlier later : Option α) :
    Prop :=
  values = [] ∧ later = earlier ∨
    earlier = none ∧ ∃ v a, values = [v] ∧ read v = some a ∧ later = some a

/-- A field is stated by the first value and no more, if it was not stated before. -/
theorem stated_cons_iff {α : Type} {read : Value → Option α} {v : Value} {values : List Value}
    {earlier later : Option α} : Stated read (v :: values) earlier later ↔
      earlier = none ∧ ∃ a, read v = some a ∧ Stated read values (some a) later := by
  constructor
  · rintro (⟨hnil, -⟩ | ⟨hearlier, v', a, hvalues, hread, hlater⟩)
    · cases hnil
    · cases hvalues
      exact ⟨hearlier, a, hread, .inl ⟨rfl, hlater⟩⟩
  · rintro ⟨hearlier, a, hread, ⟨rfl, hlater⟩ | ⟨hnone, -⟩⟩
    · exact .inr ⟨hearlier, v, a, rfl, hread, hlater⟩
    · cases hnone

/-- What is stated does not depend on the order of the values. -/
theorem stated_perm {α : Type} {read : Value → Option α} {values values' : List Value}
    (h : values.Perm values') {earlier later : Option α} :
    Stated read values earlier later ↔ Stated read values' earlier later := by
  have hforward {values values' : List Value} (h : values.Perm values')
      (hstated : Stated read values earlier later) : Stated read values' earlier later := by
    obtain ⟨rfl, hlater⟩ | ⟨hearlier, v, a, rfl, hread⟩ := hstated
    · exact .inl ⟨List.perm_nil.1 h.symm, hlater⟩
    · exact .inr ⟨hearlier, v, a, List.perm_singleton.1 h.symm, hread⟩
  exact ⟨hforward h, hforward h.symm⟩

/-- A field is set once, to a value that is read. -/
theorem setOnce_eq_some_iff {α σ : Type} {earlier value : Option α} {use : α → σ} {s : σ} :
    setOnce earlier value use = some s ↔ earlier = none ∧ ∃ a, value = some a ∧ use a = s := by
  unfold setOnce
  cases earlier <;> simp

/-- Whether members state fields, besides those that are known already: each field is told by the
values under its own key. -/
@[mk_iff]
structure ParameterFields.StatedBy (members : List (String × Value))
    (earlier later : ParameterFields) : Prop where
  name : Stated stringOf? (valuesAt "name" members) earlier.name later.name
  type : Stated stringOf? (valuesAt "type" members) earlier.type later.type
  components : Stated Parameter.listOfValue? (valuesAt "components" members) earlier.components
    later.components
  indexed : Stated booleanOf? (valuesAt "indexed" members) earlier.indexed later.indexed

/-- The fields with the one that a member of an object states, if it is one of them. -/
def ParameterFields.withMember? (fields : ParameterFields) (key : String) (v : Value) :
    Option ParameterFields :=
  if key = "name" then
    setOnce fields.name (stringOf? v) fun a => { fields with name := some a }
  else if key = "type" then
    setOnce fields.type (stringOf? v) fun a => { fields with type := some a }
  else if key = "components" then
    setOnce fields.components (Parameter.listOfValue? v)
      fun a => { fields with components := some a }
  else if key = "indexed" then
    setOnce fields.indexed (booleanOf? v) fun a => { fields with indexed := some a }
  else some fields

/-- Members are read one by one. -/
theorem ParameterFields.ofMembers?_cons (fields : ParameterFields) (key : String) (v : Value)
    (ms : List (String × Value)) : ofMembers? fields ((key, v) :: ms) =
      (fields.withMember? key v).bind fun fields' => ofMembers? fields' ms := by
  rw [ofMembers?, ← withMember?]
  cases fields.withMember? key v <;> rfl

/-- The first member states its field, and the others state theirs. -/
theorem ParameterFields.statedBy_cons_iff {key : String} {v : Value} {ms : List (String × Value)}
    {earlier later : ParameterFields} : StatedBy ((key, v) :: ms) earlier later ↔
      ∃ fields, earlier.withMember? key v = some fields ∧ StatedBy ms fields later := by
  unfold withMember?
  split_ifs with hname htype hcomponents hindexed
  case neg =>
    simp only [statedBy_iff, valuesAt_cons, hname, htype, hcomponents, hindexed, if_false,
      Option.some.injEq, exists_eq_left']
  -- a known key adds its value to those of its own field and to no others
  all_goals
    subst key
    simp only [statedBy_iff, valuesAt_cons, stated_cons_iff, setOnce_eq_some_iff, String.reduceEq,
      if_true, if_false]
    grind

/-- What an object states is told key by key. -/
theorem ParameterFields.ofMembers?_eq_some_iff {members : List (String × Value)}
    {earlier later : ParameterFields} :
    ofMembers? earlier members = some later ↔ StatedBy members earlier later := by
  induction members generalizing earlier with
  | nil =>
    have hnothing {α : Type} {read : Value → Option α} {earlier later : Option α} :
        Stated read [] earlier later ↔ earlier = later := by
      simp [Stated, eq_comm]
    obtain ⟨name, type, components, indexed⟩ := earlier
    obtain ⟨name', type', components', indexed'⟩ := later
    simp [ofMembers?, statedBy_iff, valuesAt, hnothing]
  | cons m ms ih =>
    obtain ⟨key, v⟩ := m
    rw [ofMembers?_cons, Option.bind_eq_some_iff, statedBy_cons_iff]
    simp only [ih]

/-- The order in which members stand does not matter. -/
theorem ParameterFields.ofMembers?_perm {members members' : List (String × Value)}
    (h : members.Perm members') (fields : ParameterFields) :
    ofMembers? fields members = ofMembers? fields members' := by
  have hvalues (key : String) : (valuesAt key members).Perm (valuesAt key members') :=
    (h.filter _).map _
  apply Option.ext
  intro later
  rw [ofMembers?_eq_some_iff, ofMembers?_eq_some_iff]
  simp only [statedBy_iff, stated_perm (hvalues _)]

/-! ## The order of members -/

/-- Whether two values are read alike, whatever they are read as. -/
structure ReadAlike (v w : Value) : Prop where
  string : stringOf? v = stringOf? w
  boolean : booleanOf? v = booleanOf? w
  components : Parameter.listOfValue? v = Parameter.listOfValue? w
  parameter : Parameter.ofValue? v = Parameter.ofValue? w

/-- A value is read like itself. -/
theorem ReadAlike.refl (v : Value) : ReadAlike v v :=
  ⟨rfl, rfl, rfl, rfl⟩

/-- As a member, values that are read alike give the same fields. -/
theorem ReadAlike.withMember? {v w : Value} (h : ReadAlike v w) (fields : ParameterFields)
    (key : String) : fields.withMember? key v = fields.withMember? key w := by
  rw [ParameterFields.withMember?, ParameterFields.withMember?, h.string, h.boolean, h.components]

/-- Values that are read alike give the same parameters. -/
theorem listOfValues?_congr {vs ws : List Value} (h : List.Forall₂ ReadAlike vs ws) :
    Parameter.listOfValues? vs = Parameter.listOfValues? ws := by
  induction h with
  | nil => rfl
  | cons h _ ih => rw [Parameter.listOfValues?, Parameter.listOfValues?, h.parameter, ih]

/-- The parameter of the values of an array, position by position. -/
def Parameter.ofElements? : List Value → Option Parameter
  | [name, type] => do
    return ⟨← stringOf? name, ← stringOf? type, [], false⟩
  | [name, type, components] => do
    return ⟨← stringOf? name, ← stringOf? type, ← Parameter.listOfValue? components, false⟩
  | [name, type, components, indexed] => do
    return ⟨← stringOf? name, ← stringOf? type, ← Parameter.listOfValue? components,
      ← booleanOf? indexed⟩
  | _ => none

/-- An array is read by its elements, in the order of the fields. -/
theorem ofValue?_array (vs : List Value) :
    Parameter.ofValue? (.array vs) = Parameter.ofElements? vs := by
  unfold Parameter.ofElements?
  split
  · rename_i name type
    cases name with
    | string name => cases type <;> simp [Parameter.ofValue?, stringOf?]
    | _ => simp [Parameter.ofValue?, stringOf?]
  · rename_i name type components
    cases name with
    | string name =>
      cases type with
      | string type =>
        cases hread : Parameter.listOfValue? components <;>
          simp [Parameter.ofValue?, stringOf?, hread]
      | _ => simp [Parameter.ofValue?, stringOf?]
    | _ => simp [Parameter.ofValue?, stringOf?]
  · rename_i name type components indexed
    cases name with
    | string name =>
      cases type with
      | string type =>
        cases hread : Parameter.listOfValue? components <;> cases indexed <;>
          simp [Parameter.ofValue?, stringOf?, booleanOf?, hread]
      | _ => simp [Parameter.ofValue?, stringOf?]
    | _ => simp [Parameter.ofValue?, stringOf?]
  · rename_i htwo hthree hfour
    rw [Parameter.ofValue?]
    · rintro _ ⟨⟩
    · rintro _ _ ⟨⟩
      exact htwo _ _ rfl
    · rintro _ _ _ ⟨⟩
      exact hthree _ _ _ rfl
    · rintro _ _ _ _ ⟨⟩
      exact hfour _ _ _ _ rfl

/-- Elements that are read alike give the same parameter. -/
theorem ofElements?_congr {vs ws : List Value} (h : List.Forall₂ ReadAlike vs ws) :
    Parameter.ofElements? vs = Parameter.ofElements? ws := by
  rcases h with _ | ⟨hname, _ | ⟨htype, _ | ⟨hcomponents, _ | ⟨hindexed, _ | _⟩⟩⟩⟩
  · rfl
  · rfl
  · rw [Parameter.ofElements?, Parameter.ofElements?, hname.string, htype.string]
  · rw [Parameter.ofElements?, Parameter.ofElements?, hname.string, htype.string,
      hcomponents.components]
  · rw [Parameter.ofElements?, Parameter.ofElements?, hname.string, htype.string,
      hcomponents.components, hindexed.boolean]
  · rfl

mutual

/-- Reordered values are read alike. -/
theorem readAlike_of_reordered : ∀ {v w : Value}, v.Reordered w → ReadAlike v w
  | v, _, .refl _ => .refl v
  | _, _, .array h => by
    have helements := forall₂_readAlike h
    refine ⟨rfl, rfl, ?_, ?_⟩
    · rw [Parameter.listOfValue?, Parameter.listOfValue?, listOfValues?_congr helements]
    · rw [ofValue?_array, ofValue?_array, ofElements?_congr helements]
  | _, _, .object h => by
    refine ⟨rfl, rfl, rfl, ?_⟩
    rw [Parameter.ofValue?, Parameter.ofValue?, ofMembers?_congr h]

/-- The elements of reordered arrays are read alike. -/
theorem forall₂_readAlike : ∀ {vs ws : List Value}, Value.ElementsReordered vs ws →
    List.Forall₂ ReadAlike vs ws
  | _, _, .nil => .nil
  | _, _, .cons h hrest => .cons (readAlike_of_reordered h) (forall₂_readAlike hrest)

/-- Reordered members give the same fields. -/
theorem ofMembers?_congr : ∀ {ms ns : List (String × Value)}, Value.MembersReordered ms ns →
    ∀ fields, ParameterFields.ofMembers? fields ms = ParameterFields.ofMembers? fields ns
  | _, _, .nil, _ => rfl
  | _, _, .cons key h hrest, fields => by
    have hvalue := (readAlike_of_reordered h).withMember? fields key
    rw [ParameterFields.ofMembers?_cons, ParameterFields.ofMembers?_cons, hvalue]
    exact congrArg _ (funext (ofMembers?_congr hrest))
  | _, _, .swap m n ms, fields => ParameterFields.ofMembers?_perm (.swap n m ms) fields
  | _, _, .trans h h', fields => (ofMembers?_congr h fields).trans (ofMembers?_congr h' fields)

end

/-! ## Writing and reading -/

/-- The values of parameters are those of each parameter. -/
theorem listToValues_eq_map (ps : List Parameter) :
    Parameter.listToValues ps = ps.map Parameter.toValue := by
  induction ps with
  | nil => rfl
  | cons p ps ih => rw [Parameter.listToValues, ih, List.map_cons]

/-- The members that a parameter is written as. -/
def Parameter.members (p : Parameter) : List (String × Value) :=
  [("name", .string p.name), ("type", .string p.type)] ++
    (if p.components.isEmpty then []
      else [("components", .array (p.components.map Parameter.toValue))]) ++
    (if p.indexed then [("indexed", .boolean true)] else [])

/-- A parameter is written as an object with its members. -/
theorem toValue_eq (p : Parameter) : p.toValue = .object p.members := by
  obtain ⟨name, type, components, indexed⟩ := p
  rw [Parameter.toValue, Parameter.members, listToValues_eq_map]

/-- The fields that a parameter states when it is written: a field that says no more than a missing
one is left out. -/
def Parameter.writtenFields (p : Parameter) : ParameterFields where
  name := some p.name
  type := some p.type
  components := if p.components.isEmpty then none else some p.components
  indexed := if p.indexed then some true else none

/-- What is left out is read as what it was. -/
theorem parameter?_writtenFields (p : Parameter) : p.writtenFields.parameter? = some p := by
  obtain ⟨name, type, components, indexed⟩ := p
  cases components <;> cases indexed <;> rfl

/-- The members that are written state the fields of the parameter. -/
theorem statedBy_members (p : Parameter)
    (h : Parameter.listOfValues? (p.components.map Parameter.toValue) = some p.components) :
    ParameterFields.StatedBy p.members {} p.writtenFields := by
  obtain ⟨name, type, components, indexed⟩ := p
  constructor
  · refine .inr ⟨rfl, .string name, name, ?_, rfl, rfl⟩
    cases components <;> cases indexed <;> simp [valuesAt, Parameter.members]
  · refine .inr ⟨rfl, .string type, type, ?_, rfl, rfl⟩
    cases components <;> cases indexed <;> simp [valuesAt, Parameter.members]
  · cases components with
    | nil =>
      refine .inl ⟨?_, rfl⟩
      cases indexed <;> simp [valuesAt, Parameter.members]
    | cons p ps =>
      refine .inr ⟨rfl, .array ((p :: ps).map Parameter.toValue), p :: ps, ?_, h, rfl⟩
      cases indexed <;> simp [valuesAt, Parameter.members]
  · cases indexed with
    | false =>
      refine .inl ⟨?_, rfl⟩
      cases components <;> simp [valuesAt, Parameter.members]
    | true =>
      refine .inr ⟨rfl, .boolean true, true, ?_, rfl, rfl⟩
      cases components <;> simp [valuesAt, Parameter.members]

mutual

/-- A parameter is read back from its value. -/
theorem ofValue?_toValue : ∀ p : Parameter, Parameter.ofValue? p.toValue = some p
  | ⟨name, type, components, indexed⟩ => by
    have hcomponents := listOfValues?_map_toValue components
    have hstated := statedBy_members ⟨name, type, components, indexed⟩ hcomponents
    rw [toValue_eq, Parameter.ofValue?, ParameterFields.ofMembers?_eq_some_iff.2 hstated]
    exact parameter?_writtenFields _

/-- Parameters are read back from their values. -/
theorem listOfValues?_map_toValue : ∀ ps : List Parameter,
    Parameter.listOfValues? (ps.map Parameter.toValue) = some ps
  | [] => rfl
  | p :: ps => by
    rw [List.map_cons, Parameter.listOfValues?, ofValue?_toValue p, listOfValues?_map_toValue ps]
    rfl

end

/-- A parameter survives as a value, with components at any depth. Its value is an object with a
name and a type, with components only if it has some and with the flag only if it is set. The value
is read back as the parameter, in whatever order the members of its objects stand, and two
parameters are the same if their values are, but for that order. -/
theorem parameters_survive_as_values (p : Parameter) :
    p.toValue = .object p.members ∧
    (∀ v : Value, v.Reordered p.toValue → Parameter.ofValue? v = some p) ∧
    ∀ q : Parameter, p.toValue.Reordered q.toValue → p = q := by
  have hread (v : Value) (p : Parameter) (h : v.Reordered p.toValue) :
      Parameter.ofValue? v = some p := by
    rw [(readAlike_of_reordered h).parameter, ofValue?_toValue]
  refine ⟨toValue_eq p, fun v => hread v p, fun q h => ?_⟩
  have hsame := hread p.toValue q h
  rw [ofValue?_toValue] at hsame
  exact Option.some.inj hsame

/-- A list of pairs, of which an event indexes the first part. -/
def ordersParameter : Parameter :=
  ⟨"orders", "tuple[]", [⟨"", "address", [], true⟩, ⟨"amount", "uint256", [], false⟩], false⟩

/-- The value of the list of pairs with all members in the order of their keys. -/
def ordersValue : Value :=
  .object [
    ("components", .array [
      .object [("indexed", .boolean true), ("name", .string ""), ("type", .string "address")],
      .object [("name", .string "amount"), ("type", .string "uint256")]]),
    ("name", .string "orders"), ("type", .string "tuple[]")]

/-- A parameter with components is read back from its value with the members in the order of their
keys. -/
theorem parameters_survive_as_values_sorted :
    ordersValue.Reordered ordersParameter.toValue ∧
      Parameter.ofValue? ordersValue = some ordersParameter := by
  have hlast (m n o : String × Value) : Value.MembersReordered [m, n, o] [n, o, m] := by
    have hperm : ([m] ++ [n, o]).Perm ([n, o] ++ [m]) := List.perm_append_comm
    exact Value.membersReordered_of_perm hperm
  have horders : ordersValue.Reordered ordersParameter.toValue := by
    have hpair := Value.ElementsReordered.cons
      (.object (hlast ("indexed", .boolean true) ("name", .string "") ("type", .string "address")))
      (.cons (.refl (.object [("name", .string "amount"), ("type", .string "uint256")])) .nil)
    exact .object (.trans (hlast _ _ _)
      (.cons _ (.refl _) (.cons _ (.refl _) (.cons _ (.array hpair) .nil))))
  exact ⟨horders, (parameters_survive_as_values ordersParameter).2.1 ordersValue horders⟩

end AbiBindings.Abi
