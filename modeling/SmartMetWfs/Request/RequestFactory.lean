import SmartMetWfs.Core.ByteString
import SmartMetWfs.Foundation.OrderedMap
import SmartMetWfs.Foundation.Outcomes

/-!
# The factory of requests

The types of requests are registered when the plugin is made: those that have parsers and
those that are known but not implemented. Names are compared without regard to case. The
factory that comes about does not depend on the order of the registrations, and a request is
given to the parser that was registered for its name and for the way it has come.
-/

namespace SmartMetWfs.Request

open Foundation

variable {κ ξ : Type}

structure TypeRec (κ ξ : Type) where
  kvpParser : Option κ
  xmlParser : Option ξ

/-- The names of implemented and of unimplemented requests are kept apart. `operations` are
those of the capabilities of the plugin. -/
structure RequestFactory (κ ξ : Type) where
  requestNames : OrderedSet ByteString
  typeMap : OrderedMap ByteString (TypeRec κ ξ)
  unimplementedRequests : OrderedSet ByteString
  operations : OrderedSet ByteString
  apart : ∀ lname, OrderedSet.contains unimplementedRequests lname = true →
    typeMap.find lname = none

inductive RegistrationFailure
  | alreadyUnimplemented (name : ByteString)
  | duplicate (name : ByteString)
  | alreadyImplemented (name : ByteString)

inductive DispatchFailure
  | incorrectService (service : ByteString)
  | missingRequest
  | notImplemented (name : ByteString)
  | unrecognized (name : ByteString)
  | formatNotSupported (name : ByteString)
  deriving DecidableEq

inductive Registration (κ ξ : Type)
  | requestType (name featureId : ByteString) (rec : TypeRec κ ξ)
  | unimplemented (name : ByteString)

namespace RequestFactory

def empty : RequestFactory κ ξ := ⟨.empty, .empty, .empty, .empty, nofun⟩

/-- `register_request_type`. -/
def registerRequestType (factory : RequestFactory κ ξ) (name featureId : ByteString)
    (rec : TypeRec κ ξ) : Except RegistrationFailure (RequestFactory κ ξ) :=
  let lname := asciiTolowerCopy name
  if unimplemented : OrderedSet.contains factory.unimplementedRequests lname = true then
    throw (.alreadyUnimplemented name)
  else if (factory.typeMap.find lname).isSome then
    throw (.duplicate name)
  else pure
    { requestNames := OrderedSet.insert name factory.requestNames
      typeMap := factory.typeMap.set lname rec
      unimplementedRequests := factory.unimplementedRequests
      operations :=
        if featureId ≠ [] then OrderedSet.insert featureId factory.operations
        else factory.operations
      apart := by
        intro other contained
        rw [OrderedMap.find_set]
        split
        · next same =>
            subst same
            exact absurd contained unimplemented
        · exact factory.apart other contained }

/-- `register_unimplemented_request_type`. -/
def registerUnimplementedRequestType (factory : RequestFactory κ ξ) (name : ByteString) :
    Except RegistrationFailure (RequestFactory κ ξ) :=
  let lname := asciiTolowerCopy name
  if implemented : (factory.typeMap.find lname).isSome = true then
    throw (.alreadyImplemented name)
  else pure
    { requestNames := OrderedSet.insert name factory.requestNames
      typeMap := factory.typeMap
      unimplementedRequests := OrderedSet.insert lname factory.unimplementedRequests
      operations := factory.operations
      apart := by
        intro other contained
        rcases OrderedSet.contains_insert.mp contained with rfl | before
        · simpa using implemented
        · exact factory.apart other before }

def register (factory : RequestFactory κ ξ) :
    Registration κ ξ → Except RegistrationFailure (RequestFactory κ ξ)
  | .requestType name featureId rec => factory.registerRequestType name featureId rec
  | .unimplemented name => factory.registerUnimplementedRequestType name

/-- The registrations in the constructor of the plugin. -/
def registerAll (registrations : List (Registration κ ξ)) :
    Except RegistrationFailure (RequestFactory κ ξ) :=
  registrations.foldlM register empty

/-- `get_type_rec`. -/
def getTypeRec (factory : RequestFactory κ ξ) (name : ByteString) :
    Except DispatchFailure (TypeRec κ ξ) :=
  match factory.typeMap.find (asciiTolowerCopy name) with
  | some rec => pure rec
  | none => throw (.unrecognized name)

/-- A request that is not implemented is refused, and one without a parser. -/
def selectParser {π : Type} (factory : RequestFactory κ ξ) (name : ByteString)
    (parser : TypeRec κ ξ → Option π) : Except DispatchFailure π := do
  if OrderedSet.contains factory.unimplementedRequests (asciiTolowerCopy name) then
    throw (.notImplemented name)
  let typeRec ← factory.getTypeRec name
  match parser typeRec with
  | some parse => pure parse
  | none => throw (.formatNotSupported name)

/-- `parse_kvp` up to the choice of the parser, given the parameters `service` and `request`. -/
def parseKvp (factory : RequestFactory κ ξ) (service request : Option ByteString) :
    Except DispatchFailure κ := do
  match service with
  | some service => if service ≠ ascii "WFS" then throw (.incorrectService service)
  | none => pure ()
  match request with
  | some name => factory.selectParser name TypeRec.kvpParser
  | none => throw .missingRequest

/-- `parse_xml` up to the choice of the parser, given the name of the root element. -/
def parseXml (factory : RequestFactory κ ξ) (name : ByteString) : Except DispatchFailure ξ :=
  factory.selectParser name TypeRec.xmlParser

end RequestFactory

/-! ### Registrations that go together -/

namespace Registration

def name : Registration κ ξ → ByteString
  | .requestType name _ _ => name
  | .unimplemented name => name

def isUnimplemented : Registration κ ξ → Bool
  | .requestType _ _ _ => false
  | .unimplemented _ => true

/-- Two registrations may share a name only if both say that it is not implemented. -/
def Compatible (first second : Registration κ ξ) : Prop :=
  asciiTolowerCopy first.name ≠ asciiTolowerCopy second.name ∨
    first.isUnimplemented = true ∧ second.isUnimplemented = true

theorem Compatible.symm {first second : Registration κ ξ} (compatible : first.Compatible second) :
    second.Compatible first :=
  compatible.imp Ne.symm And.symm

end Registration

/-- The factory has what the registrations say and nothing else. -/
structure Registers (registrations : List (Registration κ ξ)) (factory : RequestFactory κ ξ) :
    Prop where
  names : ∀ name, OrderedSet.contains factory.requestNames name = true ↔
    ∃ registration ∈ registrations, registration.name = name
  implemented : ∀ lname rec, factory.typeMap.find lname = some rec ↔
    ∃ name featureId, .requestType name featureId rec ∈ registrations ∧
      asciiTolowerCopy name = lname
  unimplemented : ∀ lname, OrderedSet.contains factory.unimplementedRequests lname = true ↔
    ∃ name, .unimplemented name ∈ registrations ∧ asciiTolowerCopy name = lname
  operations : ∀ operation, OrderedSet.contains factory.operations operation = true ↔
    operation ≠ [] ∧ ∃ name rec, .requestType name operation rec ∈ registrations

namespace Registers

variable {registrations : List (Registration κ ξ)} {factory factory' : RequestFactory κ ξ}

theorem unique (registers : Registers registrations factory)
    (registers' : Registers registrations factory') : factory = factory' := by
  have sameSet : ∀ {first second : OrderedSet ByteString},
      (∀ key, OrderedSet.contains first key = true ↔ OrderedSet.contains second key = true) →
        first = second := by
    intro first second same
    refine OrderedMap.ext_find fun key => Option.ext fun _ => ?_
    exact (OrderedSet.contains_iff.symm.trans (same key)).trans OrderedSet.contains_iff
  obtain ⟨names, typeMap, unimplemented, operations, apart⟩ := factory
  obtain ⟨names', typeMap', unimplemented', operations', apart'⟩ := factory'
  obtain rfl : names = names' :=
    sameSet fun key => (registers.names key).trans (registers'.names key).symm
  obtain rfl : unimplemented = unimplemented' :=
    sameSet fun key => (registers.unimplemented key).trans (registers'.unimplemented key).symm
  obtain rfl : operations = operations' :=
    sameSet fun key => (registers.operations key).trans (registers'.operations key).symm
  obtain rfl : typeMap = typeMap' := OrderedMap.ext_find fun key => Option.ext fun rec =>
    (registers.implemented key rec).trans (registers'.implemented key rec).symm
  rfl

theorem perm (registers : Registers registrations factory)
    {registrations' : List (Registration κ ξ)} (permuted : registrations.Perm registrations') :
    Registers registrations' factory where
  names name := by simp only [registers.names, permuted.mem_iff]
  implemented lname rec := by simp only [registers.implemented, permuted.mem_iff]
  unimplemented lname := by simp only [registers.unimplemented, permuted.mem_iff]
  operations operation := by simp only [registers.operations, permuted.mem_iff]

/-- A name is free when no registration is for it. -/
theorem free_iff (registers : Registers registrations factory) (lname : ByteString) :
    (OrderedSet.contains factory.unimplementedRequests lname = false ∧
      factory.typeMap.find lname = none) ↔
      ∀ registration ∈ registrations, asciiTolowerCopy registration.name ≠ lname := by
  constructor
  · rintro ⟨implemented, absent⟩ registration member same
    cases registration with
    | requestType name featureId rec =>
        cases absent.symm.trans ((registers.implemented lname rec).mpr
          ⟨name, featureId, member, same⟩)
    | unimplemented name =>
        cases implemented.symm.trans ((registers.unimplemented lname).mpr ⟨name, member, same⟩)
  · intro free
    constructor
    · refine Bool.eq_false_iff.mpr fun contained => ?_
      obtain ⟨name, member, same⟩ := (registers.unimplemented lname).mp contained
      exact free _ member same
    · cases found : factory.typeMap.find lname with
      | none => rfl
      | some rec =>
          obtain ⟨name, featureId, member, same⟩ := (registers.implemented lname rec).mp found
          exact absurd same (free _ member)

theorem requestType {name featureId : ByteString} {rec : TypeRec κ ξ}
    (registers : Registers registrations factory)
    (ran : factory.registerRequestType name featureId rec = .ok factory') :
    (∀ registration ∈ registrations,
      asciiTolowerCopy registration.name ≠ asciiTolowerCopy name) ∧
      Registers (registrations ++ [.requestType name featureId rec]) factory' := by
  unfold RequestFactory.registerRequestType at ran
  dsimp only at ran
  split at ran
  · cases ran
  · next implemented =>
      split at ran
      · cases ran
      · next absent =>
          obtain rfl := Except.ok.inj ran
          have free : factory.typeMap.find (asciiTolowerCopy name) = none := by simpa using absent
          refine ⟨(registers.free_iff _).mp ⟨by simpa using implemented, free⟩, ?_, ?_, ?_, ?_⟩
          · intro other
            simp only [OrderedSet.contains_insert, registers.names, List.mem_append,
              List.mem_singleton, or_and_right, exists_or, exists_eq_left, Registration.name]
            rw [or_comm, eq_comm]
          · intro lname rec'
            simp only [OrderedMap.find_set, List.mem_append, List.mem_singleton]
            split
            · next same =>
                subst same
                constructor
                · intro new
                  cases new
                  exact ⟨name, featureId, .inr rfl, rfl⟩
                · rintro ⟨name', featureId', before | new, same⟩
                  · cases free.symm.trans ((registers.implemented _ rec').mpr
                      ⟨name', featureId', before, same⟩)
                  · cases new
                    rfl
            · next other =>
                rw [registers.implemented]
                constructor
                · rintro ⟨name', featureId', before, same⟩
                  exact ⟨name', featureId', .inl before, same⟩
                · rintro ⟨name', featureId', before | new, same⟩
                  · exact ⟨name', featureId', before, same⟩
                  · cases new
                    exact absurd same.symm other
          · intro lname
            simp [registers.unimplemented]
          · intro operation
            by_cases given : featureId = []
            · subst given
              simp only [ne_eq, not_true_eq_false, if_false, registers.operations, List.mem_append,
                List.mem_singleton, Registration.requestType.injEq]
              constructor
              · rintro ⟨nonempty, name', rec', before⟩
                exact ⟨nonempty, name', rec', .inl before⟩
              · rintro ⟨nonempty, name', rec', before | ⟨-, empty, -⟩⟩
                · exact ⟨nonempty, name', rec', before⟩
                · exact absurd empty nonempty
            · simp only [ne_eq, given, not_false_eq_true, if_true, OrderedSet.contains_insert,
                registers.operations, List.mem_append, List.mem_singleton,
                Registration.requestType.injEq]
              constructor
              · rintro (rfl | ⟨nonempty, name', rec', before⟩)
                · exact ⟨given, name, rec, .inr ⟨rfl, rfl, rfl⟩⟩
                · exact ⟨nonempty, name', rec', .inl before⟩
              · rintro ⟨nonempty, name', rec', before | ⟨-, same, -⟩⟩
                · exact .inr ⟨nonempty, name', rec', before⟩
                · exact .inl same

theorem unimplementedRequestType {name : ByteString}
    (registers : Registers registrations factory)
    (ran : factory.registerUnimplementedRequestType name = .ok factory') :
    (∀ registration ∈ registrations, asciiTolowerCopy registration.name = asciiTolowerCopy name →
      registration.isUnimplemented = true) ∧
      Registers (registrations ++ [.unimplemented name]) factory' := by
  unfold RequestFactory.registerUnimplementedRequestType at ran
  dsimp only at ran
  split at ran
  · cases ran
  · next absent =>
      obtain rfl := Except.ok.inj ran
      refine ⟨?_, ?_, ?_, ?_, ?_⟩
      · intro registration member same
        cases registration with
        | requestType name' featureId rec =>
            have found := (registers.implemented _ rec).mpr ⟨name', featureId, member, same⟩
            rw [found] at absent
            exact absurd rfl absent
        | unimplemented name' => rfl
      · intro other
        simp only [OrderedSet.contains_insert, registers.names, List.mem_append,
          List.mem_singleton, or_and_right, exists_or, exists_eq_left, Registration.name]
        rw [or_comm, eq_comm]
      · intro lname rec
        simp [registers.implemented]
      · intro lname
        simp only [OrderedSet.contains_insert, registers.unimplemented, List.mem_append,
          List.mem_singleton, Registration.unimplemented.injEq]
        constructor
        · rintro (rfl | ⟨name', before, same⟩)
          · exact ⟨name, .inr rfl, rfl⟩
          · exact ⟨name', .inl before, same⟩
        · rintro ⟨name', before | rfl, same⟩
          · exact .inr ⟨name', before, same⟩
          · exact .inl same.symm
      · intro operation
        simp [registers.operations]

theorem register {registration : Registration κ ξ} (registers : Registers registrations factory)
    (ran : factory.register registration = .ok factory') :
    (∀ earlier ∈ registrations, earlier.Compatible registration) ∧
      Registers (registrations ++ [registration]) factory' := by
  cases registration with
  | requestType name featureId rec =>
      obtain ⟨free, after⟩ := registers.requestType ran
      exact ⟨fun earlier member => .inl (free earlier member), after⟩
  | unimplemented name =>
      obtain ⟨others, after⟩ := registers.unimplementedRequestType ran
      refine ⟨fun earlier member => ?_, after⟩
      by_cases same : asciiTolowerCopy earlier.name = asciiTolowerCopy name
      · exact .inr ⟨others earlier member same, rfl⟩
      · exact .inl same

/-- A registration that goes together with the earlier ones succeeds. -/
theorem register_succeeds {registration : Registration κ ξ}
    (registers : Registers registrations factory)
    (compatible : ∀ earlier ∈ registrations, earlier.Compatible registration) :
    ∃ after, factory.register registration = .ok after := by
  cases registration with
  | requestType name featureId rec =>
      have free := (registers.free_iff (asciiTolowerCopy name)).mpr fun earlier member =>
        (compatible earlier member).resolve_right fun both => nomatch both.2
      unfold RequestFactory.register RequestFactory.registerRequestType
      dsimp only
      rw [dif_neg (by rw [free.1]; exact Bool.false_ne_true), if_neg (by simp [free.2])]
      exact ⟨_, rfl⟩
  | unimplemented name =>
      have absent : ¬ (factory.typeMap.find (asciiTolowerCopy name)).isSome = true := by
        intro found
        obtain ⟨rec, found⟩ := Option.isSome_iff_exists.mp found
        obtain ⟨name', featureId, member, same⟩ := (registers.implemented _ rec).mp found
        rcases compatible _ member with different | ⟨implemented, -⟩
        · exact different same
        · cases implemented
      unfold RequestFactory.register RequestFactory.registerUnimplementedRequestType
      dsimp only
      rw [dif_neg absent]
      exact ⟨_, rfl⟩

end Registers

theorem registers_empty : Registers ([] : List (Registration κ ξ)) RequestFactory.empty := by
  refine ⟨?_, ?_, ?_, ?_⟩
  · intro name
    simp [RequestFactory.empty, OrderedSet.contains, OrderedMap.find, OrderedMap.empty]
  · intro lname rec
    simp [RequestFactory.empty, OrderedMap.find, OrderedMap.empty]
  · intro lname
    simp [RequestFactory.empty, OrderedSet.contains, OrderedMap.find, OrderedMap.empty]
  · intro operation
    simp [RequestFactory.empty, OrderedSet.contains, OrderedMap.find, OrderedMap.empty]

theorem registerAll_snoc (registrations : List (Registration κ ξ))
    (registration : Registration κ ξ) :
    RequestFactory.registerAll (registrations ++ [registration]) =
      (RequestFactory.registerAll registrations).bind fun before =>
        before.register registration := by
  unfold RequestFactory.registerAll
  rw [List.foldlM_append]
  simp only [List.foldlM_cons, List.foldlM_nil, bind_pure]
  rfl

theorem registerAll_registers {registrations : List (Registration κ ξ)}
    {factory : RequestFactory κ ξ}
    (ran : RequestFactory.registerAll registrations = .ok factory) :
    registrations.Pairwise Registration.Compatible ∧ Registers registrations factory := by
  induction registrations using List.reverseRecOn generalizing factory with
  | nil =>
      obtain rfl := Except.ok.inj ran
      exact ⟨.nil, registers_empty⟩
  | append_singleton registrations registration ih =>
      rw [registerAll_snoc] at ran
      cases before : RequestFactory.registerAll registrations with
      | error failure =>
          rw [before] at ran
          cases ran
      | ok earlier =>
          rw [before] at ran
          obtain ⟨pairwise, registers⟩ := ih before
          obtain ⟨compatible, after⟩ := registers.register ran
          refine ⟨List.pairwise_append.mpr ⟨pairwise, List.pairwise_singleton _ _, ?_⟩, after⟩
          intro first member last isLast
          rw [List.mem_singleton.mp isLast]
          exact compatible first member

theorem registerAll_succeeds {registrations : List (Registration κ ξ)}
    (pairwise : registrations.Pairwise Registration.Compatible) :
    ∃ factory, RequestFactory.registerAll registrations = .ok factory := by
  induction registrations using List.reverseRecOn with
  | nil => exact ⟨_, rfl⟩
  | append_singleton registrations registration ih =>
      obtain ⟨pairwise, -, compatible⟩ := List.pairwise_append.mp pairwise
      obtain ⟨before, ran⟩ := ih pairwise
      rw [registerAll_snoc, ran]
      exact (registerAll_registers ran).2.register_succeeds fun earlier member =>
        compatible earlier member registration (List.mem_singleton_self _)

/-- The registrations succeed exactly when they go together, each with each, and then the
factory has what they say. -/
theorem registerAll_iff (registrations : List (Registration κ ξ)) (factory : RequestFactory κ ξ) :
    RequestFactory.registerAll registrations = .ok factory ↔
      registrations.Pairwise Registration.Compatible ∧ Registers registrations factory := by
  refine ⟨registerAll_registers, fun ⟨pairwise, registers⟩ => ?_⟩
  obtain ⟨other, ran⟩ := registerAll_succeeds pairwise
  rw [ran, (registerAll_registers ran).2.unique registers]

/-- The factory does not depend on the order of the registrations. -/
theorem registerAll_order {registrations registrations' : List (Registration κ ξ)}
    (permuted : registrations.Perm registrations') (factory : RequestFactory κ ξ) :
    RequestFactory.registerAll registrations = .ok factory ↔
      RequestFactory.registerAll registrations' = .ok factory := by
  rw [registerAll_iff, registerAll_iff, permuted.pairwise_iff Registration.Compatible.symm]
  exact and_congr_right fun _ =>
    ⟨fun registers => registers.perm permuted, fun registers => registers.perm permuted.symm⟩

/-! ### Dispatch -/

/-- What becomes of a request of a name, by what has been registered. -/
inductive Dispatches {π : Type} (registrations : List (Registration κ ξ)) (name : ByteString)
    (parser : TypeRec κ ξ → Option π) : Except DispatchFailure π → Prop
  | parses (registered featureId : ByteString) (rec : TypeRec κ ξ) (parse : π)
      (member : .requestType registered featureId rec ∈ registrations)
      (same : asciiTolowerCopy registered = asciiTolowerCopy name)
      (parsed : parser rec = some parse) : Dispatches registrations name parser (.ok parse)
  | unsupported (registered featureId : ByteString) (rec : TypeRec κ ξ)
      (member : .requestType registered featureId rec ∈ registrations)
      (same : asciiTolowerCopy registered = asciiTolowerCopy name) (missing : parser rec = none) :
      Dispatches registrations name parser (.error (.formatNotSupported name))
  | unimplemented (registered : ByteString) (member : .unimplemented registered ∈ registrations)
      (same : asciiTolowerCopy registered = asciiTolowerCopy name) :
      Dispatches registrations name parser (.error (.notImplemented name))
  | unknown (free : ∀ registration ∈ registrations,
        asciiTolowerCopy registration.name ≠ asciiTolowerCopy name) :
      Dispatches registrations name parser (.error (.unrecognized name))

section Select

variable {π : Type} {registrations : List (Registration κ ξ)} {factory : RequestFactory κ ξ}

theorem selectParser_unimplemented {name : ByteString} (parser : TypeRec κ ξ → Option π)
    (contained : OrderedSet.contains factory.unimplementedRequests (asciiTolowerCopy name) = true) :
    factory.selectParser name parser = .error (.notImplemented name) := by
  rw [RequestFactory.selectParser, if_pos contained]
  rfl

theorem selectParser_unknown {name : ByteString} (parser : TypeRec κ ξ → Option π)
    (contained : OrderedSet.contains factory.unimplementedRequests (asciiTolowerCopy name) = false)
    (absent : factory.typeMap.find (asciiTolowerCopy name) = none) :
    factory.selectParser name parser = .error (.unrecognized name) := by
  rw [RequestFactory.selectParser, if_neg (by simp [contained]), RequestFactory.getTypeRec, absent]
  rfl

theorem selectParser_found {name : ByteString} (parser : TypeRec κ ξ → Option π)
    {rec : TypeRec κ ξ} (found : factory.typeMap.find (asciiTolowerCopy name) = some rec) :
    factory.selectParser name parser =
      (parser rec).elim (.error (.formatNotSupported name)) .ok := by
  have contained :
      ¬ OrderedSet.contains factory.unimplementedRequests (asciiTolowerCopy name) = true := by
    intro contained
    cases (factory.apart _ contained).symm.trans found
  rw [RequestFactory.selectParser, if_neg contained, RequestFactory.getTypeRec, found]
  cases parsed : parser rec with
  | none =>
      simp only [bind, Except.bind, pure, Except.pure, parsed]
      rfl
  | some parse => simp [bind, Except.bind, pure, Except.pure, parsed]

/-- A request is dispatched by what was registered for its name, in whatever case. -/
theorem Registers.dispatches_iff (registers : Registers registrations factory) (name : ByteString)
    (parser : TypeRec κ ξ → Option π) (result : Except DispatchFailure π) :
    factory.selectParser name parser = result ↔ Dispatches registrations name parser result := by
  constructor
  · rintro rfl
    cases contained :
        OrderedSet.contains factory.unimplementedRequests (asciiTolowerCopy name) with
    | true =>
        obtain ⟨registered, member, same⟩ := (registers.unimplemented _).mp contained
        rw [selectParser_unimplemented parser contained]
        exact .unimplemented registered member same
    | false =>
        cases found : factory.typeMap.find (asciiTolowerCopy name) with
        | none =>
            rw [selectParser_unknown parser contained found]
            exact .unknown ((registers.free_iff _).mp ⟨contained, found⟩)
        | some rec =>
            obtain ⟨registered, featureId, member, same⟩ := (registers.implemented _ rec).mp found
            rw [selectParser_found parser found]
            cases parsed : parser rec with
            | none => exact .unsupported registered featureId rec member same parsed
            | some parse => exact .parses registered featureId rec parse member same parsed
  · intro dispatches
    cases dispatches with
    | parses registered featureId rec parse member same parsed =>
        rw [selectParser_found parser ((registers.implemented _ rec).mpr
          ⟨registered, featureId, member, same⟩), parsed]
        rfl
    | unsupported registered featureId rec member same missing =>
        rw [selectParser_found parser ((registers.implemented _ rec).mpr
          ⟨registered, featureId, member, same⟩), missing]
        rfl
    | unimplemented registered member same =>
        exact selectParser_unimplemented parser
          ((registers.unimplemented _).mpr ⟨registered, member, same⟩)
    | unknown free =>
        obtain ⟨contained, absent⟩ := (registers.free_iff _).mpr free
        exact selectParser_unknown parser contained absent

end Select

/-- After any registrations that succeed, a request in either form is dispatched by what was
registered for its name, in whatever case: to its parser, or to the failure that fits. -/
theorem dispatch_iff {registrations : List (Registration κ ξ)} {factory : RequestFactory κ ξ}
    (ran : RequestFactory.registerAll registrations = .ok factory) (name : ByteString) :
    (∀ result, factory.parseXml name = result ↔
      Dispatches registrations name TypeRec.xmlParser result) ∧
    ∀ service, service = none ∨ service = some (ascii "WFS") →
      ∀ result, factory.parseKvp service (some name) = result ↔
        Dispatches registrations name TypeRec.kvpParser result := by
  have registers := (registerAll_registers ran).2
  refine ⟨registers.dispatches_iff name _, ?_⟩
  rintro service (rfl | rfl) result
  · exact registers.dispatches_iff name _ result
  · exact registers.dispatches_iff name _ result

/-- Two of the registrations that the plugin makes, with numbers for their parsers. -/
def someRegistrations : List (Registration Nat Nat) :=
  [.requestType (ascii "GetFeature") (ascii "supportsGetFeature") ⟨some 1, some 2⟩,
    .unimplemented (ascii "LockFeature")]

def someFactory : RequestFactory Nat Nat :=
  (RequestFactory.registerAll someRegistrations).toOption.getD .empty

theorem someFactory_registered :
    RequestFactory.registerAll someRegistrations = .ok someFactory := by
  obtain ⟨factory, ran⟩ := @registerAll_succeeds Nat Nat someRegistrations (by
    refine .cons ?_ (List.pairwise_singleton _ _)
    intro other member
    rw [List.mem_singleton.mp member]
    exact .inl (by decide))
  rw [someFactory, ran]
  rfl

theorem someFactory_order :
    RequestFactory.registerAll someRegistrations = .ok someFactory ↔
      RequestFactory.registerAll someRegistrations.reverse = .ok someFactory :=
  registerAll_order (List.reverse_perm _).symm someFactory

theorem someFactory_dispatch :
    (∀ result, someFactory.parseXml (ascii "getfeature") = result ↔
      Dispatches someRegistrations (ascii "getfeature") TypeRec.xmlParser result) ∧
    ∀ service, service = none ∨ service = some (ascii "WFS") →
      ∀ result, someFactory.parseKvp service (some (ascii "getfeature")) = result ↔
        Dispatches someRegistrations (ascii "getfeature") TypeRec.kvpParser result :=
  dispatch_iff someFactory_registered (ascii "getfeature")

end SmartMetWfs.Request
