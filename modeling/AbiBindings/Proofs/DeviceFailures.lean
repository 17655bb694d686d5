import AbiBindings.Error
import AbiBindings.Proofs.CutValues

/-!
# Failures of the device that delivers a document

A device that fails before the end of a document leaves the reader without a byte it asked for.
What it says is told as a fault of the document, so loading never tells a failure to read, which
has an error of its own. Faults that are met before the break are told as for the same bytes in
memory, whatever would have followed.
-/

set_option autoImplicit false

namespace AbiBindings.Json

namespace Cut

open Reader Abi

variable {k : Cut} {n : Nat}

/-! ### Declarations -/

/-- The value of a field is read in step. -/
theorem keepsMember_field {α σ : Type} {key : String} {earlier : Option α} {value : Reader α}
    {use : α → σ} (h : k.Shortens value) : k.KeepsMember (some (field key earlier value use)) := by
  unfold field
  split
  · rfl
  · exact fun n => (h n).shorter.map use

/-- A parameter is read in step if its components are. -/
theorem shortens_parameterWith (levels : Nat) {components : Reader (List Parameter)}
    (h : k.Shortens components) : k.Shortens (parameterWith levels components) := by
  refine shortens_record levels _ (fun n => ?_) fun n => ?_
  · unfold parameterByPosition
    refine (keeps_element _ shortens_string n).bind fun name => ?_
    refine (keeps_element _ shortens_string n).bind fun type => ?_
    cases type with
    | none => exact inStep_giveUp rfl
    | some type =>
      exact (keeps_element _ h n).bind fun components =>
        (keeps_element _ shortens_boolean n).bind fun indexed => inStep_return
  · unfold parameterByName
    have knows (fields : ParameterFields) (key : String) :
        k.KeepsMember (ParameterFields.known components fields key) := by
      unfold ParameterFields.known
      split
      · exact keepsMember_field shortens_string
      · exact keepsMember_field shortens_string
      · exact keepsMember_field h
      · exact keepsMember_field shortens_boolean
      · trivial
    refine InStep.remaining fun _ _ _ enough enough' =>
      (inStep_members knows enough enough' true {}).bind fun fields => ?_
    split
    · exact inStep_return
    · exact inStep_giveUp rfl

/-- A parameter is read in step, by induction on the levels of its components. -/
theorem shortens_parameter (levels : Nat) : k.Shortens (parameter levels) := by
  induction levels using parameter.induct with
  | case1 levels ih => exact shortens_parameterWith _ (shortens_array _ ih)
  | case2 levels h =>
    rw [parameter]
    · exact shortens_parameterWith _ fun _ => inStep_failThere rfl
    · exact h

/-- Parameters are read in step. -/
theorem shortens_parameters (levels : Nat) : k.Shortens (parameters levels) :=
  shortens_array _ (shortens_parameter _)

/-- The name of an entry is read in step. -/
theorem shortens_entryName : k.Shortens entryName :=
  shortens_optional shortens_string

/-- The mutability of an entry is read in step. -/
theorem shortens_entryMutability (levels : Nat) : k.Shortens (entryMutability levels) :=
  shortens_optional (shortens_choice _ _)

/-- A declaration is read in step. -/
theorem shortens_declaration (levels : Nat) : k.Shortens (declaration levels) := by
  refine shortens_record levels _ (fun n => ?_) fun n => ?_
  · unfold declarationByPosition
    refine (keeps_element _ (shortens_choice _ _) n).bind fun kind => ?_
    cases kind with
    | none => exact inStep_giveUp rfl
    | some kind =>
      exact (keeps_element _ shortens_entryName n).bind fun name =>
        (keeps_element _ (shortens_parameters _) n).bind fun inputs =>
        (keeps_element _ (shortens_parameters _) n).bind fun outputs =>
        (keeps_element _ (shortens_entryMutability _) n).bind fun mutability =>
        (keeps_element _ shortens_boolean n).bind fun constant =>
        (keeps_element _ shortens_boolean n).bind fun payable =>
        (keeps_element _ shortens_boolean n).bind fun anonymous => inStep_return
  · unfold declarationByName
    have knows (fields : DeclarationFields) (key : String) :
        k.KeepsMember (DeclarationFields.known (levels - 1) fields key) := by
      unfold DeclarationFields.known
      split
      · exact keepsMember_field (shortens_choice _ _)
      · exact keepsMember_field shortens_entryName
      · exact keepsMember_field (shortens_parameters _)
      · exact keepsMember_field (shortens_parameters _)
      · exact keepsMember_field (shortens_entryMutability _)
      · exact keepsMember_field shortens_boolean
      · exact keepsMember_field shortens_boolean
      · exact keepsMember_field shortens_boolean
      · trivial
    refine InStep.remaining fun _ _ _ enough enough' =>
      (inStep_members knows enough enough' true {}).bind fun fields => ?_
    split
    · exact inStep_return
    · exact inStep_giveUp rfl

/-- A list of declarations is read in step. -/
theorem shortens_declarations : k.Shortens declarations :=
  shortens_array _ (shortens_declaration _)

/-- The cut that a failure makes in front of the given bytes. -/
def ofFailure (failure : String) (more : List UInt8) : Cut :=
  ⟨some failure, more, by simp⟩

/-- Both readers come to an end of a whole document, or to the same problem, unless the device
fails. -/
theorem alike_declarations (k : Cut) (document : List UInt8) :
    k.Alike (fun _ _ _ => k.failure = none)
      (Reader.document declarations (.start (.stream k.failure) document))
      (Reader.document declarations (.start .bytes (document ++ k.more))) := by
  have keeps : k.Keeps declarations := fun n => (shortens_declarations n).shorter
  exact inStep_document keeps (n := document.length + 1) _ _
    ⟨rfl, rfl, rfl, Nat.lt_succ_self document.length⟩

end Cut

/-- A device that hands over a document in pieces of at least one byte, each given by its first
byte and the others, and then fails or ends. -/
structure Device where
  pieces : List (UInt8 × List UInt8)
  failure : Option String

namespace Device

/-- All bytes of a device. -/
def document (device : Device) : List UInt8 :=
  device.pieces.flatMap fun piece => piece.1 :: piece.2

/-- The next byte of a device, and what is left. -/
def next (device : Device) : Option (UInt8 × Device) :=
  match device.pieces with
  | [] => none
  | (b, []) :: pieces => some (b, { device with pieces := pieces })
  | (b, b' :: rest) :: pieces => some (b, { device with pieces := (b', rest) :: pieces })

/-- A device delivers its next byte, and then the rest. -/
theorem document_eq_of_next (device : Device) :
    device.document = match device.next with
      | none => []
      | some (b, device') => b :: device'.document := by
  obtain ⟨pieces, failure⟩ := device
  match pieces with
  | [] => rfl
  | (b, []) :: pieces => rfl
  | (b, b' :: rest) :: pieces => rfl

/-- The bytes of a device that is asked for one after the other. -/
def delivered (device : Device) : List UInt8 :=
  match _handed : device.next with
  | none => []
  | some (b, device') => b :: device'.delivered
termination_by device.document.length
decreasing_by
  rw [device.document_eq_of_next, _handed]
  simp

/-- The sizes of the pieces do not show in what is delivered. -/
theorem delivered_eq_document (device : Device) : device.delivered = device.document := by
  have delivered_eq (device : Device) : device.delivered = match device.next with
      | none => []
      | some (b, device') => b :: device'.delivered := by
    rw [delivered]
    split <;> simp_all
  induction device using delivered.induct with
  | case1 device ended =>
    rw [delivered_eq, document_eq_of_next, ended]
  | case2 device b device' handed ih =>
    rw [delivered_eq, document_eq_of_next, handed]
    simp [ih]

end Device

end AbiBindings.Json

namespace AbiBindings.Abi

open Json

/-- A load error without the place of a fault. -/
def LoadError.placeless : LoadError → LoadError
  | .malformed fault => .malformed ⟨fault.problem, none⟩
  | error => error

/-- Loads an interface from the document that a device delivers. -/
def loadFrom (allowEmpty : Bool) (device : Device) : Except LoadError Interface :=
  load allowEmpty (.stream device.failure) device.delivered

/-- Loading from a document does not fail for reading it. -/
theorem load_ne_unreadable (allowEmpty : Bool) (delivery : Delivery) (document : List UInt8)
    (text : String) : load allowEmpty delivery document ≠ .error (.unreadable text) := by
  unfold load loadDeclarations
  split
  · split
    · simp
    · split <;> simp
  · simp

/-- A problem of the document that is met within its first bytes, whatever follows them. Only behind
a comma that ends an array too early does the next byte decide which of two faults is told. -/
def MetWithin (allowEmpty : Bool) (front : List UInt8) (problem : Problem) : Prop :=
  problem.isFailure = false ∧
    ∀ more, ∃ fault, load allowEmpty .bytes (front ++ more) = .error (.malformed fault) ∧
      (fault.problem = problem ∨
        more ≠ [] ∧ problem = .trailingCharacters ∧ fault.problem = .trailingComma)

/-- The outcome of loading a document that is cut short, beside that of loading one that goes on. -/
theorem load_cut (k : Cut) (allowEmpty : Bool) (document : List UInt8) :
    k.failure = none ∧ load allowEmpty (.stream k.failure) document =
        load allowEmpty .bytes (document ++ k.more) ∨
    ∃ fault, load allowEmpty (.stream k.failure) document = .error (.malformed fault) ∧
      ((∃ text, k.failure = some text ∧ fault.problem = .deviceFailure text) ∨
        ∃ fault', load allowEmpty .bytes (document ++ k.more) = .error (.malformed fault') ∧
          k.SameProblem fault.problem fault'.problem) := by
  have alike := k.alike_declarations document
  unfold load readDeclarations
  generalize Reader.document declarations (.start (.stream k.failure) document) = x at alike ⊢
  generalize Reader.document declarations (.start .bytes (document ++ k.more)) = y at alike ⊢
  cases alike with
  | value whole => exact .inl ⟨whole, rfl⟩
  | fault same => exact .inr ⟨_, rfl, .inr ⟨_, rfl, same⟩⟩
  | struck failed told => exact .inr ⟨_, rfl, .inl ⟨_, failed, told⟩⟩

/-- A device that fails is told by its own words, or not reached. -/
theorem loadFrom_of_failure (allowEmpty : Bool) {device : Device} {failure : String}
    (failed : device.failure = some failure) :
    ∃ fault, loadFrom allowEmpty device = .error (.malformed fault) ∧
      (fault.problem = .deviceFailure failure ∨
        MetWithin allowEmpty device.document fault.problem) := by
  have cut (more : List UInt8) :
      ∃ fault, loadFrom allowEmpty device = .error (.malformed fault) ∧
        (fault.problem = .deviceFailure failure ∨
          ∃ fault', load allowEmpty .bytes (device.document ++ more) = .error (.malformed fault') ∧
            (Cut.ofFailure failure more).SameProblem fault.problem fault'.problem) := by
    rw [loadFrom, device.delivered_eq_document, failed]
    obtain ⟨whole, -⟩ | ⟨fault, told, ⟨text, same, own⟩ | met⟩ :=
      load_cut (.ofFailure failure more) allowEmpty device.document
    · cases whole
    · cases same
      exact ⟨fault, told, .inl own⟩
    · exact ⟨fault, told, .inr met⟩
  obtain ⟨fault, told, -⟩ := cut []
  refine ⟨fault, told, or_iff_not_imp_left.mpr fun other => ?_⟩
  have met (more : List UInt8) : ∃ fault',
      load allowEmpty .bytes (device.document ++ more) = .error (.malformed fault') ∧
        (Cut.ofFailure failure more).SameProblem fault.problem fault'.problem := by
    obtain ⟨same, told', own | met⟩ := cut more
    all_goals obtain rfl : same = fault := by simpa [told] using told'.symm
    · exact absurd own other
    · exact met
  refine ⟨(met []).elim fun _ h => h.2.1, fun more => ?_⟩
  obtain ⟨fault', h, -, same⟩ := met more
  exact ⟨fault', h, same⟩

/-- From a device that does not fail, what is loaded is what is loaded from its document, but for
the places of faults. -/
theorem loadFrom_of_ended (allowEmpty : Bool) {device : Device} (ended : device.failure = none) :
    (loadFrom allowEmpty device).mapError LoadError.placeless =
      (load allowEmpty .bytes device.document).mapError LoadError.placeless := by
  rw [loadFrom, device.delivered_eq_document, ended]
  obtain ⟨-, same⟩ | ⟨fault, told, ⟨text, failed, -⟩ | ⟨fault', told', -, same⟩⟩ :=
    load_cut ⟨none, [], fun _ => rfl⟩ allowEmpty device.document
  · rw [same, List.append_nil]
  · cases failed
  · rw [List.append_nil] at told'
    obtain same | ⟨nothing, -⟩ := same
    · rw [told, told']
      simp [Except.mapError, LoadError.placeless, same]
    · exact absurd rfl nothing

end AbiBindings.Abi

namespace AbiBindings

open Json Abi

/-- Loading never tells a failure to read, so no generation does either. A device that ends without
a failure gives what its bytes give in memory. One that fails gives no interface, and neither a
fault of an entry nor that of an empty interface: its own words are told as a fault of the
document, unless a fault of the document is met first, which is told as for the same bytes in
memory. -/
theorem device_failures_are_malformed (allowEmpty : Bool) (device : Device) :
    (∀ text, loadFrom allowEmpty device ≠ .error (.unreadable text)) ∧
    (∀ error text, loadFrom allowEmpty device = .error error →
      GenerateError.ofLoad error ≠ .io text) ∧
    (device.failure = none →
      (loadFrom allowEmpty device).mapError LoadError.placeless =
        (load allowEmpty .bytes device.document).mapError LoadError.placeless) ∧
    ∀ failure, device.failure = some failure →
      ∃ fault, loadFrom allowEmpty device = .error (.malformed fault) ∧
        GenerateError.ofLoad (.malformed fault) = .malformedAbi (.malformed fault) ∧
        (fault.problem = .deviceFailure failure ∨
          MetWithin allowEmpty device.document fault.problem) ∧
        ∀ more, (∀ fault', load allowEmpty .bytes (device.document ++ more) ≠
          .error (.malformed fault')) → fault.problem = .deviceFailure failure := by
  refine ⟨load_ne_unreadable _ _ _, fun error text told converted => ?_,
    loadFrom_of_ended allowEmpty, fun failure failed => ?_⟩
  · cases error with
    | unreadable text => exact load_ne_unreadable _ _ _ text told
    | malformed fault => cases converted
    | invalidEntry index fault => cases converted
    | empty => cases converted
  · obtain ⟨fault, told, own⟩ := loadFrom_of_failure allowEmpty failed
    refine ⟨fault, told, rfl, own, fun more reads => own.resolve_right fun met => ?_⟩
    obtain ⟨fault', h, -⟩ := met.2 more
    exact reads fault' h

/-- A device that fails behind the bracket that opens an array is told by its own words; one that
fails behind a bracket that closes none is not reached. -/
theorem device_failures_are_malformed_behind_bracket :
    (∃ fault, loadFrom true ⟨[(0x5B, [])], some "disk gone"⟩ = .error (.malformed fault) ∧
      fault.problem = .deviceFailure "disk gone") ∧
    MetWithin true [0x5D] .expectedValue := by
  have reads (fault' : Fault) :
      load true .bytes ([0x5B] ++ [0x5D]) ≠ .error (.malformed fault') := by
    have ok : (load true .bytes ([0x5B] ++ [0x5D])).toBool = true := by decide +kernel
    intro h
    rw [h] at ok
    cases ok
  constructor
  · obtain ⟨-, -, -, failing⟩ :=
      device_failures_are_malformed true ⟨[(0x5B, [])], some "disk gone"⟩
    obtain ⟨fault, told, -, -, own⟩ := failing "disk gone" rfl
    exact ⟨fault, told, own [0x5D] reads⟩
  · have met : loadFrom true ⟨[(0x5D, [])], some "disk gone"⟩ =
        .error (.malformed ⟨.expectedValue, some ⟨1, 1⟩⟩) := by
      rw [loadFrom, Device.delivered_eq_document]
      rfl
    obtain ⟨-, -, -, failing⟩ :=
      device_failures_are_malformed true ⟨[(0x5D, [])], some "disk gone"⟩
    obtain ⟨fault, told, -, own, -⟩ := failing "disk gone" rfl
    obtain rfl : ⟨.expectedValue, some ⟨1, 1⟩⟩ = fault := by simpa [met] using told
    exact own.resolve_left (by simp)

end AbiBindings
