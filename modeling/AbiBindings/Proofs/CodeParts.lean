import Mathlib.Data.List.Infix
import AbiBindings.Bindings.Source

/-!
# Parts of the generated code

Members are written one by one, and what is proved about the code of a member would say little if
that code were lost on the way to the module. A part of code stands side by side somewhere in it,
within whatever brackets (`StandsIn`), and then its text stands in the text of the code. All methods
make up one block of the generated code, and the types and the filter builders of all events one
module each (`membersStand`).
-/

set_option autoImplicit false

namespace AbiBindings.Code

/-! ## Code within code -/

/-- Whether tokens stand side by side somewhere in code, within whatever brackets. -/
inductive StandsIn (tokens : List Token) : List Token → Prop
  | here {code : List Token} (h : tokens <:+: code) : StandsIn tokens code
  | inside {bracket : Bracket} {body code : List Token} (hgroup : .group bracket body ∈ code)
      (h : StandsIn tokens body) : StandsIn tokens code

section StandsIn

variable {tokens code other : List Token}

/-- What stands in code stands in all code around it. -/
theorem StandsIn.within (h : StandsIn tokens code) (hcode : code <:+: other) :
    StandsIn tokens other := by
  cases h with
  | here h => exact .here (h.trans hcode)
  | inside hgroup h => exact .inside (hcode.subset hgroup) h

/-- Code that stands in a part of code stands in the whole. -/
theorem StandsIn.trans (h : StandsIn tokens code) (hcode : StandsIn code other) :
    StandsIn tokens other := by
  induction hcode with
  | here hcode => exact h.within hcode
  | inside hgroup _ ih => exact .inside hgroup ih

/-- What stands between curly brackets stands in code that ends with them. -/
theorem standsIn_append_curly (front body : List Token) : StandsIn body (front ++ [curly body]) :=
  .inside (List.mem_append_right front List.mem_cons_self) (.here List.infix_rfl)

/-! ## Text within text -/

/-- The pieces of code at the end stand at the end of the pieces. -/
theorem listPieces_append_left (front tokens : List Token) :
    Token.listPieces tokens <:+ Token.listPieces (front ++ tokens) := by
  induction front with
  | nil => exact List.suffix_rfl
  | cons token front ih =>
    rw [List.cons_append, Token.listPieces]
    exact ih.trans (List.suffix_append _ _)

/-- The pieces of code at the front stand at the front of the pieces. -/
theorem listPieces_append_right (tokens back : List Token) :
    Token.listPieces tokens <+: Token.listPieces (tokens ++ back) := by
  induction tokens with
  | nil => exact List.nil_prefix
  | cons token rest ih =>
    rw [List.cons_append, Token.listPieces, Token.listPieces]
    cases rest with
    | nil => simp [Token.listPieces, List.append_assoc]
    | cons next rest => simpa using ih

/-- Code in the middle of code is written in the middle of its text. -/
theorem listPieces_within (h : tokens <:+: code) :
    Token.listPieces tokens <:+: Token.listPieces code := by
  obtain ⟨front, back, rfl⟩ := h
  exact (listPieces_append_left front tokens).isInfix.trans
    (listPieces_append_right (front ++ tokens) back).isInfix

/-- Code in brackets is written between them. -/
theorem listPieces_group (bracket : Bracket) (body : List Token) :
    Token.listPieces body <:+: Token.listPieces [.group bracket body] := by
  let padding := if bracket = .curly ∧ body.isEmpty = false then [" "] else []
  exact ⟨[bracket.opening], padding ++ [bracket.closing], by simp [Token.listPieces, Token.pieces,
    padding]⟩

/-- The pieces of code that stands in code stand in its pieces. -/
theorem StandsIn.listPieces (h : StandsIn tokens code) :
    Token.listPieces tokens <:+: Token.listPieces code := by
  induction h with
  | here h => exact listPieces_within h
  | @inside bracket body code hgroup _ ih =>
    have hcode : [.group bracket body] <:+: code := by
      obtain ⟨front, back, rfl⟩ := List.append_of_mem hgroup
      exact ⟨front, back, by simp⟩
    exact ih.trans ((listPieces_group bracket body).trans (listPieces_within hcode))

/-- The text of code that stands in code stands in its text. -/
theorem StandsIn.exists_render (h : StandsIn tokens code) :
    ∃ before after, render code = before ++ render tokens ++ after := by
  obtain ⟨before, after, hcode⟩ := h.listPieces
  refine ⟨String.join before, String.join after, ?_⟩
  rw [render, ← hcode, render, ← String.toList_inj]
  simp [String.toList_join]

end StandsIn

end AbiBindings.Code

namespace AbiBindings.Bindings

open Code

/-! ## The parts of the generated module -/

variable {b : ContractBindings}

/-- What the generated module holds stands in the generated code. -/
theorem moduleTokens_standsIn (b : ContractBindings) : StandsIn b.moduleTokens b.tokens := by
  have hmodule : .group .curly b.moduleTokens ∈ b.tokens := by
    simp [ContractBindings.tokens, curly]
  exact .inside hmodule (.here List.infix_rfl)

/-- The constant with the compiled code stands in the generated code. -/
theorem binaryTokens_standsIn (b : ContractBindings) : StandsIn (binaryTokens b.code) b.tokens := by
  have hbinary : binaryTokens b.code <:+: b.moduleTokens := by
    refine ⟨attributeTokens (phrase "rustfmt :: skip") ++
      (phrase "use" ++ ([nameToken b.setup.runtime] ++ phrase "as runtime ;")),
      contractTokens b.contractName ++ (b.deployment.tokens b.contractName ++
        (methodsTokens b.methods ++ eventsTokens b.events b.setup.derives)), ?_⟩
    simp only [ContractBindings.moduleTokens, List.append_assoc]
  exact (StandsIn.here hbinary).trans (moduleTokens_standsIn b)

/-- The block with all methods. -/
def methodsBlock (methods : List Method) : List Token :=
  phrase "impl Methods < '_ >" ++ [curly (methods.flatMap Method.tokens)]

/-- The module with the types of all events. -/
def typesModule (events : List EventBinding) (further : List (List Token)) : List Token :=
  phrase "pub mod events" ++ [curly (
    phrase "use super :: runtime ;" ++ events.flatMap fun e => e.typeDefinition further)]

/-- The module with the filter builders of all events. -/
def buildersModule (events : List EventBinding) : List Token :=
  phrase "pub mod event_builders" ++ [curly (
    phrase "use super :: runtime ;" ++ events.flatMap EventBinding.builderDefinition)]

/-- Whether all members are written in generated code: the methods in one block, and the types of
events and their filter builders in one module each, and nothing else in these. -/
structure MembersStand (b : ContractBindings) : Prop where
  methods : b.methods ≠ [] → StandsIn (methodsBlock b.methods) b.tokens
  types : b.events ≠ [] → StandsIn (typesModule b.events b.setup.derives) b.tokens
  builders : b.events ≠ [] → StandsIn (buildersModule b.events) b.tokens

/-- The methods stand in the code of the bindings. -/
theorem methodsTokens_standsIn (b : ContractBindings) :
    StandsIn (methodsTokens b.methods) b.tokens := by
  have hmethods : methodsTokens b.methods <:+: b.moduleTokens := by
    rw [ContractBindings.moduleTokens]
    exact List.infix_append _ _ _
  exact (StandsIn.here hmethods).trans (moduleTokens_standsIn b)

/-- The types and filter builders of the events stand in the code of the bindings. -/
theorem eventsTokens_standsIn (b : ContractBindings) :
    StandsIn (eventsTokens b.events b.setup.derives) b.tokens := by
  have hevents : eventsTokens b.events b.setup.derives <:+: b.moduleTokens := by
    rw [ContractBindings.moduleTokens]
    exact (List.suffix_append _ _).isInfix
  exact (StandsIn.here hevents).trans (moduleTokens_standsIn b)

/-- Code with other code before and behind it is a part of the whole. -/
theorem infix_of_exists {tokens code front : List Token}
    (h : ∃ back, code = front ++ (tokens ++ back)) : tokens <:+: code := by
  obtain ⟨back, rfl⟩ := h
  exact ⟨front, back, List.append_assoc _ _ _⟩

/-- The code of every member stands in the code of its bindings. -/
theorem membersStand (b : ContractBindings) : MembersStand b where
  methods := by
    intro hne
    have hblock : methodsBlock b.methods <:+ methodsTokens b.methods := by
      rw [methodsTokens, if_neg (by simpa using hne), methodsBlock, List.append_assoc]
      exact List.suffix_append _ _
    exact (StandsIn.here hblock.isInfix).trans (methodsTokens_standsIn b)
  types := by
    intro hne
    have hmodule : ∃ back, eventsTokens b.events b.setup.derives =
        (docLine "Module containing all generated data models for this contract's" ++
          docLine "events.") ++ (typesModule b.events b.setup.derives ++ back) := by
      rw [eventsTokens, if_neg (by simpa using hne), typesModule]
      simp only [List.append_assoc]
      exact ⟨_, rfl⟩
    exact (StandsIn.here (infix_of_exists hmodule)).trans (eventsTokens_standsIn b)
  builders := by
    intro hne
    have hmodule : ∃ back, eventsTokens b.events b.setup.derives =
        (docLine "Module containing all generated data models for this contract's" ++
          (docLine "events." ++ (typesModule b.events b.setup.derives ++
            (docLine "Module containing builders for filtered streams of this contract's" ++
              docLine "events.")))) ++ (buildersModule b.events ++ back) := by
      rw [eventsTokens, if_neg (by simpa using hne), typesModule, buildersModule]
      simp only [List.append_assoc]
      exact ⟨_, rfl⟩
    exact (StandsIn.here (infix_of_exists hmodule)).trans (eventsTokens_standsIn b)

/-- The code of an element stands in a block that is written element by element. -/
theorem standsIn_block {α : Type} {write : α → List Token} {a : α} {elements : List α}
    (ha : a ∈ elements) (front header : List Token) :
    StandsIn (write a) (header ++ [curly (front ++ elements.flatMap write)]) := by
  have helement : write a <:+: front ++ elements.flatMap write :=
    (List.infix_of_mem_flatten (List.mem_map_of_mem ha)).trans (List.suffix_append _ _).isInfix
  exact (StandsIn.here helement).trans (standsIn_append_curly _ _)

/-- The code of every method stands in the generated code. -/
theorem method_standsIn {m : Method} (h : m ∈ b.methods) : StandsIn m.tokens b.tokens :=
  (standsIn_block h [] _).trans ((membersStand b).methods (List.ne_nil_of_mem h))

/-- The type of every event stands in the generated code. -/
theorem typeDefinition_standsIn {e : EventBinding} (h : e ∈ b.events) :
    StandsIn (e.typeDefinition b.setup.derives) b.tokens :=
  (standsIn_block h _ _).trans ((membersStand b).types (List.ne_nil_of_mem h))

/-- The filter builder of every event stands in the generated code. -/
theorem builderDefinition_standsIn {e : EventBinding} (h : e ∈ b.events) :
    StandsIn e.builderDefinition b.tokens :=
  (standsIn_block h _ _).trans ((membersStand b).builders (List.ne_nil_of_mem h))

end AbiBindings.Bindings
