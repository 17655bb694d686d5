import Mathlib.Data.List.Nodup
import Mathlib.Data.List.TakeWhile
import Mathlib.Tactic.MkIffOfInductiveProp
import Mathlib.Tactic.SplitIfs
import AbiBindings.CommandLine.Options

/-!
# Spelled options

An option can be written in several ways. Reading the arguments that spell options comes down to
recording the options one after the other (`Spelled.readAll_eq`): a value that stands behind its
option is recorded later than one that is attached to it, but before the next option is.

What is recorded is either all of the options, or a conflict if two of them have the same key
(`Spelled.generateRequest_eq`).
-/

set_option autoImplicit false

namespace AbiBindings.CommandLine

/-! ## Options and their spellings -/

/-- An option with a value. -/
inductive ValueOption where
  | abiFile
  | binFile
  | outputDir
  | package
  deriving DecidableEq

/-- A flag. -/
inductive Flag where
  | nativeTypes
  | solidityTypes
  | noFormat
  deriving DecidableEq

/-- An option that a user gives, with its value if it takes one. -/
inductive GivenOption where
  | value (o : ValueOption) (text : String)
  | flag (f : Flag)
  deriving DecidableEq

namespace ValueOption

/-- The letter of an option. -/
def letter : ValueOption → String
  | abiFile => "a"
  | binFile => "b"
  | outputDir => "o"
  | package => "p"

/-- The word of an option. -/
def word : ValueOption → String
  | abiFile => "abiFile"
  | binFile => "binFile"
  | outputDir => "outputDir"
  | package => "package"

/-- The key of an option. -/
def key : ValueOption → OptionKey
  | abiFile => .abiFile
  | binFile => .binFile
  | outputDir => .outputDir
  | package => .package

/-- The ways to write an option with its value: by its letter or by its word, and with the value
attached or as an argument of its own. -/
def spellings (o : ValueOption) (text : String) : List (List String) := [
  ["-" ++ o.letter ++ text],
  ["-" ++ o.letter ++ "=" ++ text],
  ["-" ++ o.letter, text],
  ["--" ++ o.word, text],
  ["--" ++ o.word ++ "=" ++ text]]

end ValueOption

namespace Flag

/-- The words of a flag. -/
def words : Flag → List String
  | nativeTypes => ["nativeTypes", "javaTypes", "jt"]
  | solidityTypes => ["solidityTypes", "st"]
  | noFormat => ["noFormat"]

/-- The key of a flag. -/
def key : Flag → OptionKey
  | nativeTypes => .nativeTypes
  | solidityTypes => .solidityTypes
  | noFormat => .noFormat

end Flag

/-- A value that is not mistaken for something else: it is not empty, and it begins neither with a
hyphen nor with an equals sign. -/
@[mk_iff]
structure IsValue (text : String) : Prop where
  nonempty : text ≠ ""
  hyphen : text.toList.head? ≠ some '-'
  equals : text.toList.head? ≠ some '='

/-- Whether a text may be a value is decided by its first character. -/
instance : DecidablePred IsValue := fun text => decidable_of_iff _ (isValue_iff text).symm

namespace GivenOption

/-- The key of a given option. -/
def key : GivenOption → OptionKey
  | value o _ => o.key
  | flag f => f.key

/-- The value of an option. A flag counts as one with an empty value. -/
def text : GivenOption → String
  | value _ text => text
  | flag _ => ""

/-- An option as it is recorded. -/
def entry (o : GivenOption) : OptionKey × String :=
  (o.key, o.text)

/-- The ways to write an option. -/
def spellings : GivenOption → List (List String)
  | value o text => o.spellings text
  | flag f => f.words.map fun word => ["--" ++ word]

/-- Whether the value of an option, if it takes one, is not mistaken for something else. -/
def IsProper : GivenOption → Prop
  | value _ text => IsValue text
  | flag _ => True

/-- Whether an option is given properly is decided by its value. -/
instance : DecidablePred IsProper
  | value _ text => inferInstanceAs (Decidable (IsValue text))
  | flag _ => inferInstanceAs (Decidable True)

/-- Whether two options must not be given together: an option can be given once, and the
representation of integers can be chosen once. -/
def Excludes (o o' : GivenOption) : Prop :=
  o.key = o'.key ∨
    o = flag .nativeTypes ∧ o' = flag .solidityTypes ∨
    o = flag .solidityTypes ∧ o' = flag .nativeTypes

end GivenOption

/-- Whether arguments spell options, in their order. -/
inductive Spelled : List GivenOption → List String → Prop
  | nil : Spelled [] []
  | cons {o : GivenOption} {options : List GivenOption} {spelling arguments : List String}
    (h : spelling ∈ o.spellings) (hrest : Spelled options arguments) :
    Spelled (o :: options) (spelling ++ arguments)

/-! ## The form of a spelling -/

/-- A value has a first character that neither begins an option nor is an equals sign. -/
theorem IsValue.exists_cons {text : String} (h : IsValue text) :
    ∃ c cs, text.toList = c :: cs ∧ c ≠ '-' ∧ c ≠ '=' := by
  cases hlist : text.toList with
  | nil => exact absurd (String.toList_eq_nil_iff.1 hlist) h.nonempty
  | cons c cs =>
    have hhyphen := h.hyphen
    have hequals := h.equals
    rw [hlist] at hhyphen hequals
    exact ⟨c, cs, rfl, fun hc => hhyphen (by rw [hc]; rfl), fun hc => hequals (by rw [hc]; rfl)⟩

/-- A value is no option. -/
theorem ofString_value {text : String} (h : IsValue text) :
    Argument.ofString text = .plain text := by
  obtain ⟨c, cs, hlist, hhyphen, -⟩ := h.exists_cons
  unfold Argument.ofString
  rw [hlist]
  simp [hhyphen]

/-- Each character of a text differs from one that is not in it. -/
theorem forall_mem_ne {cs : List Char} {c : Char} (h : c ∉ cs) : ∀ d ∈ cs, (d != c) = true := by
  intro d hd
  exact bne_iff_ne.2 fun hdc => h (hdc ▸ hd)

/-- An argument with a word. -/
theorem ofString_word {word : String} (hempty : word ≠ "") (hequals : '=' ∉ word.toList) :
    Argument.ofString ("--" ++ word) = .long word none := by
  have hlist : ("--" ++ word).toList = '-' :: '-' :: word.toList := by simp
  have hclear := forall_mem_ne hequals
  unfold Argument.ofString
  rw [hlist]
  cases hword : word.toList with
  | nil => exact absurd (String.toList_eq_nil_iff.1 hword) hempty
  | cons c cs =>
    rw [hword] at hclear
    simp only [List.takeWhile_eq_self_iff.2 hclear, List.dropWhile_eq_nil_iff.2 hclear]
    rw [← hword, String.ofList_toList]

/-- An argument with a word and a value. -/
theorem ofString_word_value {word text : String} (hequals : '=' ∉ word.toList) :
    Argument.ofString ("--" ++ word ++ "=" ++ text) = .long word (some text) := by
  have hlist : ("--" ++ word ++ "=" ++ text).toList =
      '-' :: '-' :: (word.toList ++ '=' :: text.toList) := by simp
  have hclear := forall_mem_ne hequals
  have hbefore : (word.toList ++ '=' :: text.toList).takeWhile (· != '=') = word.toList := by
    rw [List.takeWhile_append_of_pos hclear]
    simp
  have hbehind : (word.toList ++ '=' :: text.toList).dropWhile (· != '=') =
      '=' :: text.toList := by
    rw [List.dropWhile_append_of_pos hclear]
    simp
  unfold Argument.ofString
  rw [hlist]
  cases hrest : word.toList ++ '=' :: text.toList with
  | nil => simp at hrest
  | cons c cs =>
    rw [hrest] at hbefore hbehind
    simp only [hbefore, hbehind, String.ofList_toList]

/-- An argument with a letter and a value right behind it. -/
theorem ValueOption.ofString_letter (o : ValueOption) (text : String) :
    Argument.ofString ("-" ++ o.letter ++ text) = .short (o.letter.toList ++ text.toList) := by
  have hlist : ("-" ++ o.letter ++ text).toList = '-' :: (o.letter.toList ++ text.toList) := by
    simp
  unfold Argument.ofString
  rw [hlist]
  cases o <;> simp [letter]

/-- An argument with a letter and a value behind an equals sign. -/
theorem ValueOption.ofString_letter_equals (o : ValueOption) (text : String) :
    Argument.ofString ("-" ++ o.letter ++ "=" ++ text) =
      .short (o.letter.toList ++ '=' :: text.toList) := by
  rw [String.append_assoc, ofString_letter, String.toList_append]
  rfl

/-- An argument with a letter alone. -/
theorem ValueOption.ofString_letter_alone (o : ValueOption) :
    Argument.ofString ("-" ++ o.letter) = .short (o.letter.toList ++ []) := by
  cases o <;> rfl

/-! ## Reading one option -/

namespace Progress

/-- Reads an option with a value that is settled later. -/
def withLateValue (p : Progress) (key : OptionKey) (value : String) :
    Except UsageFault Progress := do
  .ok { (← p.settle) with pending := some (key, some value) }

/-- Nothing is pending once it is settled. -/
theorem pending_of_settle {p q : Progress} (h : p.settle = .ok q) : q.pending = none := by
  unfold settle record at h
  split at h
  · cases h
    assumption
  · cases h
  · split_ifs at h
    cases h
    rfl

/-- Recording a value leaves nothing to settle. -/
theorem record_settle {p : Progress} (h : p.pending = none) (key : OptionKey) (value : String) :
    p.record key value >>= settle = p.record key value := by
  obtain ⟨given, pending⟩ := p
  cases h
  unfold record
  split_ifs <;> rfl

/-- A value that is attached to its option is recorded at once. -/
theorem settle_withValue (p : Progress) (key : OptionKey) (value : String) :
    p.withValue key value >>= settle = p.settle >>= fun q => q.record key value := by
  unfold withValue
  cases hsettle : p.settle with
  | error fault => rfl
  | ok q => exact record_settle (pending_of_settle hsettle) key value

/-- A value that is late is recorded when it is settled. -/
theorem settle_withLateValue (p : Progress) (key : OptionKey) (value : String) :
    p.withLateValue key value >>= settle = p.settle >>= fun q => q.record key value := by
  unfold withLateValue
  cases hsettle : p.settle with
  | error fault => rfl
  | ok q =>
    obtain ⟨given, pending⟩ := q
    cases pending_of_settle hsettle
    rfl

end Progress

namespace ValueOption

variable (o : ValueOption) (p : Progress) (text : String) (rest : List String)

/-- The word of an option takes its value, or waits for it. -/
theorem long_word (value : Option String) :
    p.long o.word value =
      match value with
      | some text => p.withValue o.key text
      | none => p.awaitValue o.key := by
  cases o <;> cases value <;> rfl

/-- The letter of an option takes its value, or waits for it. -/
theorem short_letter (cs : List Char) :
    p.short (o.letter.toList ++ cs) =
      match cs with
      | [] => p.awaitValue o.key
      | '=' :: cs' => p.withValue o.key (String.ofList cs')
      | cs' => p.withValue o.key (String.ofList cs') := by
  cases o <;> rfl

/-- The word of an option is not empty and has no equals sign. -/
theorem word_clear : o.word ≠ "" ∧ '=' ∉ o.word.toList := by
  cases o <;> decide

/-- An option by its word, with the value behind an equals sign. -/
theorem readAll_word_value :
    p.readAll (("--" ++ o.word ++ "=" ++ text) :: rest) =
      p.withValue o.key text >>= fun q => q.readAll rest := by
  rw [Progress.readAll, ofString_word_value o.word_clear.2]
  simp only [long_word]

/-- An option by its letter, with the value right behind it. -/
theorem readAll_letter_value (h : IsValue text) :
    p.readAll (("-" ++ o.letter ++ text) :: rest) =
      p.withValue o.key text >>= fun q => q.readAll rest := by
  obtain ⟨c, cs, hlist, -, hequals⟩ := h.exists_cons
  have hshort : p.short (o.letter.toList ++ c :: cs) = p.withValue o.key text := by
    rw [short_letter, ← String.ofList_toList (s := text), hlist]
    simp [hequals]
  rw [Progress.readAll, ofString_letter, hlist]
  simp only [hshort]

/-- An option by its letter, with the value behind an equals sign. -/
theorem readAll_letter_equals :
    p.readAll (("-" ++ o.letter ++ "=" ++ text) :: rest) =
      p.withValue o.key text >>= fun q => q.readAll rest := by
  rw [Progress.readAll, ofString_letter_equals]
  simp only [short_letter, String.ofList_toList]

/-- Reading the value that an option waits for. -/
theorem readAll_awaited (h : IsValue text) :
    (p.awaitValue o.key >>= fun q => q.readAll (text :: rest)) =
      p.withLateValue o.key text >>= fun q => q.readAll rest := by
  simp only [Progress.awaitValue, Progress.withLateValue, Progress.readAll, ofString_value h]
  cases p.settle <;> rfl

/-- An option by its word, with the value as the next argument. -/
theorem readAll_word (h : IsValue text) :
    p.readAll (("--" ++ o.word) :: text :: rest) =
      p.withLateValue o.key text >>= fun q => q.readAll rest := by
  rw [← readAll_awaited o p text rest h, Progress.readAll,
    ofString_word o.word_clear.1 o.word_clear.2]
  simp only [long_word]

/-- An option by its letter, with the value as the next argument. -/
theorem readAll_letter (h : IsValue text) :
    p.readAll (("-" ++ o.letter) :: text :: rest) =
      p.withLateValue o.key text >>= fun q => q.readAll rest := by
  rw [← readAll_awaited o p text rest h, Progress.readAll, ofString_letter_alone]
  simp only [short_letter]

end ValueOption

namespace Flag

/-- The words of a flag are not empty and have no equals signs. -/
theorem words_clear (f : Flag) : ∀ word ∈ f.words, word ≠ "" ∧ '=' ∉ word.toList := by
  cases f <;> decide

/-- The words of a flag name it. -/
theorem lookup_words (f : Flag) : ∀ word ∈ f.words, longNames.lookup word = some f.key := by
  cases f <;> decide

/-- A flag by one of its words. -/
theorem readAll_word (f : Flag) {word : String} (h : word ∈ f.words) (p : Progress)
    (rest : List String) : p.readAll (("--" ++ word) :: rest) =
      p.withValue f.key "" >>= fun q => q.readAll rest := by
  obtain ⟨hempty, hequals⟩ := f.words_clear word h
  have hlong : p.long word none = p.withValue f.key "" := by
    rw [Progress.long, f.lookup_words word h]
    cases f <;> rfl
  rw [Progress.readAll, ofString_word hempty hequals]
  simp only [hlong]

end Flag

/-- Reading a spelled option is a step by which it is recorded, at once or when it is settled. -/
theorem GivenOption.exists_readAll_eq {o : GivenOption} (ho : o.IsProper) {spelling : List String}
    (h : spelling ∈ o.spellings) (p : Progress) :
    ∃ step : Except UsageFault Progress,
      (∀ rest, p.readAll (spelling ++ rest) = step >>= fun q => q.readAll rest) ∧
        step >>= Progress.settle = p.settle >>= fun q => q.record o.key o.text := by
  have hwith := p.settle_withValue o.key o.text
  have hlate := p.settle_withLateValue o.key o.text
  cases o with
  | value o text =>
    simp only [spellings, ValueOption.spellings, List.mem_cons, List.not_mem_nil, or_false] at h
    rcases h with rfl | rfl | rfl | rfl | rfl
    · exact ⟨_, fun rest => o.readAll_letter_value p text rest ho, hwith⟩
    · exact ⟨_, fun rest => o.readAll_letter_equals p text rest, hwith⟩
    · exact ⟨_, fun rest => o.readAll_letter p text rest ho, hlate⟩
    · exact ⟨_, fun rest => o.readAll_word p text rest ho, hlate⟩
    · exact ⟨_, fun rest => o.readAll_word_value p text rest, hwith⟩
  | flag f =>
    obtain ⟨word, hword, rfl⟩ := List.mem_map.1 h
    exact ⟨_, fun rest => f.readAll_word hword p rest, hwith⟩

/-! ## Reading all options -/

namespace Progress

/-- Records options one after the other. -/
def recordAll (p : Progress) (options : List GivenOption) : Except UsageFault Progress :=
  options.foldlM (fun q o => q.record o.key o.text) p

/-- Options are recorded one by one. -/
theorem recordAll_cons (p : Progress) (o : GivenOption) (options : List GivenOption) :
    p.recordAll (o :: options) = p.record o.key o.text >>= fun q => q.recordAll options :=
  List.foldlM_cons

end Progress

/-- Reading the arguments that spell options records the options in their order. -/
theorem Spelled.readAll_eq {options : List GivenOption} {arguments : List String}
    (h : Spelled options arguments) (hproper : ∀ o ∈ options, o.IsProper) (p : Progress) :
    p.readAll arguments = p.settle >>= fun q => q.recordAll options := by
  induction h generalizing p with
  | nil => exact (bind_pure p.settle).symm
  | @cons o options spelling arguments hspelling _ ih =>
    have ih := ih fun o' ho' => hproper o' (List.mem_cons_of_mem o ho')
    obtain ⟨step, hread, hsettle⟩ :=
      GivenOption.exists_readAll_eq (hproper o List.mem_cons_self) hspelling p
    -- what the step leaves pending is settled by whatever is read next
    calc p.readAll (spelling ++ arguments)
        = step >>= fun q => q.settle >>= fun q' => q'.recordAll options := by
          rw [hread]
          simp only [ih]
      _ = (p.settle >>= fun q => q.record o.key o.text) >>= fun q => q.recordAll options := by
          rw [← hsettle, bind_assoc]
      _ = p.settle >>= fun q => q.recordAll (o :: options) := by
          simp only [bind_assoc, Progress.recordAll_cons]

/-! ## What is recorded -/

namespace Progress

/-- The keys of the options that are settled. -/
def givenKeys (p : Progress) : List OptionKey :=
  p.given.map Prod.fst

/-- A value is found for the options that are given. -/
theorem isSome_lookup_iff {p : Progress} {key : OptionKey} :
    (p.given.lookup key).isSome ↔ key ∈ p.givenKeys := by
  simp only [List.lookup_isSome_iff, givenKeys, List.mem_map, beq_iff_eq, @eq_comm _ key]

/-- An option that has not been given is recorded. -/
theorem record_of_not_mem {p : Progress} {o : GivenOption} (ho : o.IsProper)
    (h : o.key ∉ p.givenKeys) :
    p.record o.key o.text = .ok { p with given := p.given ++ [o.entry] } := by
  have hvalue : (o.key.isPath && o.text = "") = false := by
    cases o with
    | value o text => simp [GivenOption.text, ho.nonempty]
    | flag f => cases f <;> rfl
  rw [record, if_neg (isSome_lookup_iff.not.2 h), hvalue]
  rfl

/-- An option that has been given is in conflict. -/
theorem record_of_mem {p : Progress} {key : OptionKey} (value : String) (h : key ∈ p.givenKeys) :
    p.record key value = .error .conflict := by
  rw [record, if_pos (isSome_lookup_iff.2 h)]

/-- Recording options one after the other is a conflict if a key is given twice, and otherwise
gives all of them. -/
theorem recordAll_eq {options : List GivenOption} (hproper : ∀ o ∈ options, o.IsProper)
    (p : Progress) (hp : p.givenKeys.Nodup) :
    p.recordAll options =
      if (p.givenKeys ++ options.map GivenOption.key).Nodup then
        .ok { p with given := p.given ++ options.map GivenOption.entry }
      else .error .conflict := by
  induction options generalizing p with
  | nil => simp [recordAll, hp, pure, Except.pure]
  | cons o options ih =>
    rw [recordAll_cons]
    by_cases hkey : o.key ∈ p.givenKeys
    · have hnodup : ¬ (p.givenKeys ++ (o :: options).map GivenOption.key).Nodup := fun h =>
        List.disjoint_of_nodup_append h hkey (List.mem_cons_self)
      rw [record_of_mem _ hkey, if_neg hnodup]
      rfl
    · have hkeys : givenKeys { p with given := p.given ++ [o.entry] } = p.givenKeys ++ [o.key] := by
        simp [givenKeys, GivenOption.entry]
      have hnodup : (p.givenKeys ++ [o.key]).Nodup :=
        List.nodup_append_comm.1 (List.nodup_cons.2 ⟨hkey, hp⟩)
      rw [record_of_not_mem (hproper o List.mem_cons_self) hkey]
      change recordAll _ options = _
      rw [ih (fun o' ho' => hproper o' (List.mem_cons_of_mem o ho')) _ (hkeys ▸ hnodup), hkeys]
      simp

end Progress

/-- The request of the arguments that spell options: a conflict if a key is given twice, and
otherwise the request of the options in their order. -/
theorem Spelled.generateRequest_eq {options : List GivenOption} {arguments : List String}
    (h : Spelled options arguments) (hproper : ∀ o ∈ options, o.IsProper) :
    generateRequest arguments =
      if (options.map GivenOption.key).Nodup then
        Progress.request ⟨options.map GivenOption.entry, none⟩
      else .error .conflict := by
  have hread : Progress.start.readAll arguments = Progress.start.recordAll options :=
    h.readAll_eq hproper Progress.start
  have hrecord := Progress.recordAll_eq hproper Progress.start List.nodup_nil
  simp only [Progress.start, Progress.givenKeys, List.map_nil, List.nil_append] at hrecord
  rw [generateRequest, hread, Progress.start, hrecord]
  split_ifs <;> rfl

end AbiBindings.CommandLine
