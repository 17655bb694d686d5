import Mathlib.Data.List.Nodup
import AbiBindings.Proofs.EventIdentifier
import AbiBindings.Proofs.Resolution
import AbiBindings.Proofs.Signature

/-!
# Collisions are reported exactly

Once the inputs of all entries have types, resolution fails exactly if two entries get the same
accessor or the same identifier. It names the first entry that repeats an accessor, or the first
that repeats an identifier if the accessors are distinct, and the one entry before it that bears the
name. Entries of one signature always collide; overloads without aliases collide in no other case
(`resolve_collisions`).
-/

set_option autoImplicit false

namespace AbiBindings.Naming

open Abi

/-! ## The first repetition -/

/-- Whether `second` is the first entry that repeats the key of an entry before it, and `first` the
only entry before it with that key. -/
def FirstRepetition (key : Resolved → String) (resolved : List Resolved) (first second : Resolved) :
    Prop :=
  ∃ before after, resolved = before ++ second :: after ∧ (before.map key).Nodup ∧
    first ∈ before ∧ key first = key second ∧
    ∀ earlier ∈ before, key earlier = key second → earlier = first

/-- The search finds the first repetition, given that the entries searched before have distinct
keys. -/
theorem firstRepetition_of_repetition? {key : Resolved → String} {before resolved : List Resolved}
    {first second : Resolved} (hbefore : (before.map key).Nodup)
    (h : repetition? key before resolved = some (first, second)) :
    FirstRepetition key (before ++ resolved) first second := by
  -- what was searched stays distinct as long as no repetition is found
  induction resolved generalizing before with
  | nil => cases h
  | cons r rest ih =>
    rw [repetition?] at h
    split at h
    · rename_i earlier hfind
      obtain ⟨rfl, rfl⟩ := Prod.mk.inj (Option.some.inj h)
      have hmem := List.mem_of_find?_eq_some hfind
      have hkey : key earlier = key r := by simpa using List.find?_some hfind
      refine ⟨before, rest, rfl, hbefore, hmem, hkey, fun other hother hsame => ?_⟩
      exact List.inj_on_of_nodup_map hbefore hother hmem (hsame.trans hkey.symm)
    · rename_i hfind
      have hfresh : key r ∉ before.map key := by
        intro hmem
        obtain ⟨earlier, hearlier, hkey⟩ := List.mem_map.1 hmem
        exact absurd hkey (by simpa using List.find?_eq_none.1 hfind earlier hearlier)
      have hnodup : ((before ++ [r]).map key).Nodup := by
        rw [List.map_append, List.map_singleton, List.nodup_append]
        refine ⟨hbefore, List.nodup_singleton _, ?_⟩
        intro k hk other hother heq
        obtain rfl := List.mem_singleton.1 hother
        exact hfresh (heq ▸ hk)
      have hrest := ih hnodup h
      rwa [List.append_assoc] at hrest

/-- The check of a key that is repeated names the first repetition. -/
theorem checkUnique_eq_firstRepetition {key : Resolved → String} {resolved : List Resolved}
    (h : ¬ (resolved.map key).Nodup) :
    ∃ first second, FirstRepetition key resolved first second ∧
      checkUnique key resolved =
        .error (.collision (key second) first.signature second.signature) := by
  unfold checkUnique
  split
  · rename_i first second hrepetition
    have hfirst := @firstRepetition_of_repetition? key [] _ _ _ List.nodup_nil hrepetition
    exact ⟨first, second, hfirst, rfl⟩
  · exact absurd (repetition?_eq_none_iff.1 ‹_›).1 h

/-- Keys are distinct if no two entries of the list, one before the other, have the same key. -/
theorem nodup_map_iff_sublist {key : Resolved → String} {resolved : List Resolved} :
    (resolved.map key).Nodup ↔ ∀ r s, [r, s].Sublist resolved → key r ≠ key s := by
  rw [List.Nodup, List.pairwise_map, List.pairwise_iff_forall_sublist]

/-! ## Names and signatures -/

section Names

variable {aliases : Aliases} {entries : List Entry} {e : Entry} {types : List ParamType}

/-- An alias is both names of its entry. -/
theorem resolveOne_of_alias (entries : List Entry) {name : String}
    (h : aliases.lookup (signatureOf e.title types) = some name) :
    (resolveOne aliases entries e types).accessor = name ∧
      (resolveOne aliases entries e types).identifier = name := by
  rw [← signatureText_eq] at h
  rw [resolveOne, h]
  exact ⟨rfl, rfl⟩

/-- Without an alias an entry is named by its name and the suffix of its types. -/
theorem resolveOne_of_no_alias (entries : List Entry)
    (h : aliases.lookup (signatureOf e.title types) = none) :
    (resolveOne aliases entries e types).accessor =
        accessorOf e.title (suffix? entries e types) ∧
      (resolveOne aliases entries e types).identifier =
        if e.kind = .event then eventIdentifier e.title (suffix? entries e types)
        else accessorOf e.title (suffix? entries e types) := by
  rw [← signatureText_eq] at h
  rw [resolveOne, h]
  exact ⟨rfl, rfl⟩

end Names

/-- Two candidates stand for two entries of the list, one before the other. -/
theorem sublist_of_sublist_candidates {aliases : Aliases} {entries : List Entry} {r s : Resolved}
    (h : [r, s].Sublist (candidates aliases entries)) :
    ∃ e f, [e, f].Sublist entries ∧ r = resolveOne aliases entries e e.types ∧
      s = resolveOne aliases entries f f.types := by
  obtain ⟨l, hl, hmap⟩ := List.sublist_map_iff.1 h
  obtain ⟨e, rest, rfl, rfl, hrest⟩ := List.map_eq_cons_iff.1 hmap.symm
  obtain ⟨f, rest, rfl, rfl, hnil⟩ := List.map_eq_cons_iff.1 hrest
  obtain rfl := List.map_eq_nil_iff.1 hnil
  exact ⟨e, f, hl, rfl, rfl⟩

section Pairs

variable {aliases : Aliases} {entries : List Entry} {e f : Entry} {types others : List ParamType}

/-- Entries of one signature have the same names and types, as far as a suffix shows them. -/
theorem suffix?_congr (entries : List Entry)
    (h : signatureOf e.title types = signatureOf f.title others) :
    e.title = f.title ∧ suffix? entries e types = suffix? entries f others := by
  obtain ⟨htitle, htypes⟩ := signatureOf_inj.1 h
  refine ⟨htitle, ?_⟩
  rw [suffix?, suffix?, htitle, overloadSuffix_inj.2 htypes]

/-- Entries of one signature get the same accessor, and the same identifier if they are of one
kind. -/
theorem names_eq_of_signature_eq (h : signatureOf e.title types = signatureOf f.title others) :
    (resolveOne aliases entries e types).accessor =
        (resolveOne aliases entries f others).accessor ∧
      (e.kind = f.kind → (resolveOne aliases entries e types).identifier =
        (resolveOne aliases entries f others).identifier) := by
  cases halias : aliases.lookup (signatureOf e.title types) with
  | some name =>
    obtain ⟨haccessor, hidentifier⟩ := resolveOne_of_alias entries halias
    rw [h] at halias
    obtain ⟨haccessor', hidentifier'⟩ := resolveOne_of_alias entries halias
    rw [haccessor, haccessor', hidentifier, hidentifier']
    exact ⟨rfl, fun _ => rfl⟩
  | none =>
    obtain ⟨haccessor, hidentifier⟩ := resolveOne_of_no_alias entries halias
    rw [h] at halias
    obtain ⟨haccessor', hidentifier'⟩ := resolveOne_of_no_alias entries halias
    obtain ⟨htitle, hsuffix⟩ := suffix?_congr entries h
    rw [haccessor, haccessor', hidentifier, hidentifier', htitle, hsuffix]
    exact ⟨rfl, fun hkind => by rw [hkind]⟩

/-- Two entries of one name are overloads. -/
theorem suffix?_of_sublist (h : [e, f].Sublist entries) (htitle : e.title = f.title)
    (types others : List ParamType) :
    suffix? entries e types = some (overloadSuffix types) ∧
      suffix? entries f others = some (overloadSuffix others) := by
  have hcount := h.countP_le (p := fun g => decide (g.title = f.title))
  have hoverloaded : isOverloaded entries f.title := by
    simp only [List.countP_cons, List.countP_nil, htitle, decide_true, if_true] at hcount
    rw [isOverloaded, decide_eq_true_eq]
    omega
  rw [suffix?, suffix?, htitle, if_pos hoverloaded, if_pos hoverloaded]
  exact ⟨rfl, rfl⟩

/-- The accessors of overloads without aliases are the same only if the types are. -/
theorem types_eq_of_accessor_eq (hpair : [e, f].Sublist entries) (htitle : e.title = f.title)
    (he : aliases.lookup (signatureOf e.title types) = none)
    (hf : aliases.lookup (signatureOf f.title others) = none)
    (h : (resolveOne aliases entries e types).accessor =
      (resolveOne aliases entries f others).accessor) :
    types.map ParamType.unnamed = others.map ParamType.unnamed := by
  obtain ⟨hsuffix, hsuffix'⟩ := suffix?_of_sublist hpair htitle types others
  obtain ⟨haccessor, -⟩ := resolveOne_of_no_alias entries he
  obtain ⟨haccessor', -⟩ := resolveOne_of_no_alias entries hf
  rw [haccessor, haccessor', hsuffix, hsuffix', htitle] at h
  exact overloadSuffix_inj.1 ((String.append_right_inj _).1 h)

/-- The identifiers of overloads of one kind without aliases are the same only if the types are. -/
theorem types_eq_of_identifier_eq (hpair : [e, f].Sublist entries) (htitle : e.title = f.title)
    (he : aliases.lookup (signatureOf e.title types) = none)
    (hf : aliases.lookup (signatureOf f.title others) = none) (hkind : e.kind = f.kind)
    (h : (resolveOne aliases entries e types).identifier =
      (resolveOne aliases entries f others).identifier) :
    types.map ParamType.unnamed = others.map ParamType.unnamed := by
  obtain ⟨hsuffix, hsuffix'⟩ := suffix?_of_sublist hpair htitle types others
  obtain ⟨-, hidentifier⟩ := resolveOne_of_no_alias entries he
  obtain ⟨-, hidentifier'⟩ := resolveOne_of_no_alias entries hf
  rw [hidentifier, hidentifier', hsuffix, hsuffix', htitle, hkind] at h
  by_cases hevent : f.kind = .event
  · rw [if_pos hevent, if_pos hevent] at h
    exact eventIdentifier_inj.1 h
  · rw [if_neg hevent, if_neg hevent] at h
    exact overloadSuffix_inj.1 ((String.append_right_inj _).1 h)

end Pairs

/-! ## Reports -/

/-- Whether an error reports the first entry that repeats a name: an accessor, or an identifier if
the accessors are distinct. -/
def ReportsFirst (resolved : List Resolved) (error : GenerateError) : Prop :=
  ∃ first second,
    FirstRepetition Resolved.accessor resolved first second ∧
        error = .collision second.accessor first.signature second.signature ∨
      (resolved.map Resolved.accessor).Nodup ∧
        FirstRepetition Resolved.identifier resolved first second ∧
        error = .collision second.identifier first.signature second.signature

/-- Entries are not told apart exactly if two of them share an accessor or an identifier. -/
theorem not_distinct_iff {resolved : List Resolved} : ¬ Distinct resolved ↔
    ∃ r s, [r, s].Sublist resolved ∧ (r.accessor = s.accessor ∨ r.identifier = s.identifier) := by
  rw [Distinct, nodup_map_iff_sublist, nodup_map_iff_sublist]
  constructor
  · intro h
    by_contra hnone
    refine h ⟨fun r s hpair heq => ?_, fun r s hpair heq => ?_⟩
    · exact hnone ⟨r, s, hpair, Or.inl heq⟩
    · exact hnone ⟨r, s, hpair, Or.inr heq⟩
  · rintro ⟨r, s, hpair, haccessor | hidentifier⟩ ⟨haccessors, hidentifiers⟩
    · exact haccessors r s hpair haccessor
    · exact hidentifiers r s hpair hidentifier

/-- With types for all inputs, resolution fails exactly if the names are not distinct. -/
theorem exists_resolve_error_iff {aliases : Aliases} {entries : List Entry}
    (h : InputsTyped entries) : (∃ error, resolve aliases entries = .error error) ↔
      ¬ Distinct (candidates aliases entries) := by
  constructor
  · rintro ⟨error, herror⟩ hdistinct
    rw [resolve_eq_candidates h hdistinct] at herror
    cases herror
  · intro hdistinct
    obtain ⟨identifier, first, second, herror⟩ := resolve_eq_collision h hdistinct
    exact ⟨_, herror⟩

/-- With types for all inputs, the error of resolution reports the first repetition. -/
theorem reportsFirst_of_resolve {aliases : Aliases} {entries : List Entry} {error : GenerateError}
    (h : InputsTyped entries) (herror : resolve aliases entries = .error error) :
    ReportsFirst (candidates aliases entries) error := by
  have hdistinct := (exists_resolve_error_iff h).1 ⟨error, herror⟩
  rw [resolve_of_inputsTyped h] at herror
  by_cases haccessor : ((candidates aliases entries).map Resolved.accessor).Nodup
  · have hidentifier : ¬ ((candidates aliases entries).map Resolved.identifier).Nodup :=
      fun hidentifier => hdistinct ⟨haccessor, hidentifier⟩
    obtain ⟨first, second, hfirst, hcheck⟩ := checkUnique_eq_firstRepetition hidentifier
    rw [checkUnique_eq_ok haccessor, hcheck] at herror
    exact ⟨first, second, Or.inr ⟨haccessor, hfirst, (Except.error.inj herror).symm⟩⟩
  · obtain ⟨first, second, hfirst, hcheck⟩ := checkUnique_eq_firstRepetition haccessor
    rw [hcheck] at herror
    exact ⟨first, second, Or.inl ⟨hfirst, (Except.error.inj herror).symm⟩⟩

/-- Reports of collisions are sound and complete. If the inputs of all entries have types,
resolution fails exactly if two entries get the same accessor or the same identifier, and it reports
the first of them. Two entries of one signature get the same accessor, and the same identifier if
they are of one kind; two entries of one name without aliases do so only if their types have the
same canonical text. -/
theorem resolve_collisions {aliases : Aliases} {entries : List Entry} (h : InputsTyped entries) :
    ((∃ error, resolve aliases entries = .error error) ↔
      ∃ r s, [r, s].Sublist (candidates aliases entries) ∧
        (r.accessor = s.accessor ∨ r.identifier = s.identifier)) ∧
    (∀ error, resolve aliases entries = .error error →
      ReportsFirst (candidates aliases entries) error) ∧
    ∀ r s, [r, s].Sublist (candidates aliases entries) →
      (r.signature = s.signature → r.accessor = s.accessor ∧
        (r.entry.kind = s.entry.kind → r.identifier = s.identifier)) ∧
      (r.entry.title = s.entry.title → aliases.lookup r.signature = none →
        aliases.lookup s.signature = none →
        (r.accessor = s.accessor →
          ParamType.canonicalTuple r.types = ParamType.canonicalTuple s.types) ∧
        (r.entry.kind = s.entry.kind → r.identifier = s.identifier →
          ParamType.canonicalTuple r.types = ParamType.canonicalTuple s.types)) := by
  refine ⟨?_, fun error => reportsFirst_of_resolve h, ?_⟩
  · rw [exists_resolve_error_iff h, not_distinct_iff]
  · intro r s hpair
    obtain ⟨e, f, hentries, rfl, rfl⟩ := sublist_of_sublist_candidates hpair
    simp only [signature_resolveOne, entry_resolveOne, types_resolveOne,
      ParamType.canonicalTuple_inj]
    refine ⟨names_eq_of_signature_eq, fun htitle he hf => ⟨?_, ?_⟩⟩
    · exact types_eq_of_accessor_eq hentries htitle he hf
    · exact types_eq_of_identifier_eq hentries htitle he hf

/-- Three events, two of which have names that differ in case alone. -/
def transferEvents : List Entry :=
  [⟨.event, some "Transfer", [⟨"to", "address", [], true⟩], [], .nonpayable, false⟩,
    ⟨.event, some "Approval", [⟨"ids", "uint8[2]", [], false⟩], [], .nonpayable, false⟩,
    ⟨.event, some "transfer", [⟨"from", "address", [], true⟩], [], .nonpayable, false⟩]

/-- The events cannot be told apart, and the first repetition among them is reported. -/
theorem resolve_collisions_transfer : InputsTyped transferEvents ∧
    ∃ error, resolve [] transferEvents = .error error ∧
      ReportsFirst (candidates [] transferEvents) error := by
  have htyped : InputsTyped transferEvents := by decide +kernel
  obtain ⟨hfails, hreports, -⟩ := @resolve_collisions [] _ htyped
  have hpair : ∀ r s t : Resolved, [r, t].Sublist [r, s, t] := by simp
  have haccessor : snakeName "Transfer" = snakeName "transfer" := by decide +kernel
  obtain ⟨error, herror⟩ := hfails.2 ⟨_, _, hpair _ _ _, Or.inl haccessor⟩
  exact ⟨htyped, error, herror, hreports error herror⟩

end AbiBindings.Naming
