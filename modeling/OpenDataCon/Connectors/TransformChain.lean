import OpenDataCon.Connectors.MultiCallback
import OpenDataCon.Connectors.Transforms

/-!
# The chain of transforms of a connector

A connector copies the event of a sender and passes the copy through the sender's
transforms to the destinations. The chain is built from its end: each transform
gets the rest of the chain as the handler to call. Dropping is calling that handler
with a null pointer, and the handler of a transform calls the transform with
whatever it is given.

All transforms but the black hole read the event they are given, so a null pointer
that reaches one of them ends the program. The connector does what it should with
an event (`Handled`) if and only if no transform drops it, or only black holes come
after the one that does (`connectorEvent_handled_iff`).
-/

set_option autoImplicit false

namespace OpenDataCon.Connectors.TransformChain

universe u

variable {Name : Type u} {D : Type} {O : EventType → Type}

/-! ## The connector -/

/-- The event objects, the transforms of the sender and what they share; then what has
happened: transforms that were given an event, deliveries, and calls of the callback. -/
structure World (Name : Type u) (D : Type) (O : EventType → Type) where
  objects : Nat → EventInfo D O
  allocated : Nat
  transforms : List (Transform D)
  shared : Shared
  applied : List Nat := []
  delivered : List (Name × EventInfo D O) := []
  called : List CommandStatus := []

/-- A new object, under the next free number. -/
def World.makeShared (world : World Name D O) (object : EventInfo D O) : World Name D O :=
  { world with
    objects := Function.update world.objects world.allocated object
    allocated := world.allocated + 1 }

/-- The program has read through a null pointer. -/
inductive Fault where
  | nullEvent
deriving DecidableEq, Repr

/-- An event handler is given a pointer to an event, or a null pointer. -/
abbrev EvtHandler (Name : Type u) (D : Type) (O : EventType → Type) :=
  Option Nat → World Name D O → Except Fault (World Name D O)

/-- The end of the chain: deliver to all destinations, or report the drop. All
destinations share the closure of the status callback. -/
def toDestination (destinations : List Name) : EvtHandler Name D O
  | none, world => .ok { world with called := world.called ++ [.UNDEFINED] }
  | some evt, world =>
    .ok { world with
      delivered := world.delivered ++ destinations.map fun name => (name, world.objects evt) }

section Chain

variable [Mul D] [Add D] [LE D] [LT D] [DecidableLE D] [DecidableLT D]

/-- The transform at a place is called with a pointer and the rest of the chain. -/
def transformEvent (place : Nat) (pAllow : EvtHandler Name D O) : EvtHandler Name D O :=
  fun evt world =>
    match world.transforms[place]? with
    | none => .ok world
    | some tx =>
      match evt, tx with
      -- a black hole does not look at what it is given
      | none, .BlackHole => pAllow none world
      | none, _ => .error .nullEvent
      | some ref, tx =>
        let passed := tx.event world.shared (world.objects ref)
        let world := { world with
          transforms := world.transforms.set place passed.transform
          shared := passed.shared
          applied := world.applied ++ [place] }
        match passed.event with
        | none => pAllow none world
        | some event =>
          pAllow (some ref) { world with objects := Function.update world.objects ref event }

/-- The loop over the transforms from the last to the first. -/
def chain (destinations : List Name) (transforms : Nat) : EvtHandler Name D O :=
  (List.range transforms).reverse.foldl (fun next place => transformEvent place next)
    (toDestination destinations)

/-- `DataConnector::Event` for the sender's event object. -/
def connectorEvent (enabled : Bool) (destinations : List Name) (event : Nat)
    (world : World Name D O) : Except Fault (World Name D O) :=
  if !enabled then .ok { world with called := world.called ++ [.UNDEFINED] }
  else if 0 < destinations.length then
    let newEventObj := world.allocated
    chain destinations world.transforms.length (some newEventObj)
      (world.makeShared (world.objects event))
  else .ok { world with called := world.called ++ [.UNDEFINED] }

/-! ## What a chain is for -/

/-- What the transforms make of an event from left to right, and how many saw it. -/
structure Composed (D : Type) (O : EventType → Type) where
  transforms : List (Transform D)
  shared : Shared
  applied : Nat
  event : Option (EventInfo D O)

/-- The left-to-right composition; a transform that drops the event ends it. -/
def composition : List (Transform D) → Shared → EventInfo D O → Composed D O
  | [], shared, event => ⟨[], shared, 0, some event⟩
  | tx :: rest, shared, event =>
    let passed := tx.event shared event
    match passed.event with
    | none => ⟨passed.transform :: rest, passed.shared, 1, none⟩
    | some event =>
      let later := composition rest passed.shared event
      ⟨passed.transform :: later.transforms, later.shared, later.applied + 1, later.event⟩

/-- Nothing is delivered, and the callback is called with `UNDEFINED`. -/
def Refused (world world' : World Name D O) : Prop :=
  world'.delivered = world.delivered ∧ world'.called = world.called ++ [.UNDEFINED]

/-- The event is handled as it should be: all destinations get what the transforms make of
a copy, or nobody gets anything and the callback is called with `UNDEFINED`. -/
structure Handled (enabled : Bool) (destinations : List Name) (event : Nat)
    (world world' : World Name D O) : Prop where
  /-- The objects that were there are as before, the sender's among them. -/
  objects : ∀ ref < world.allocated, world'.objects ref = world.objects ref
  closed : enabled = false ∨ destinations = [] → Refused world world'
  /-- The transforms up to the one that drops are given the event, and no others. -/
  applied : enabled = true → destinations ≠ [] → world'.applied = world.applied ++
    List.range (composition world.transforms world.shared (world.objects event)).applied
  keeps : enabled = true → destinations ≠ [] →
    world'.transforms =
        (composition world.transforms world.shared (world.objects event)).transforms ∧
      world'.shared = (composition world.transforms world.shared (world.objects event)).shared
  delivers : enabled = true → destinations ≠ [] → ∀ made,
    (composition world.transforms world.shared (world.objects event)).event = some made →
    world'.delivered = world.delivered ++ destinations.map (fun name => (name, made)) ∧
      world'.called = world.called
  drops : enabled = true → destinations ≠ [] →
    (composition world.transforms world.shared (world.objects event)).event = none →
    Refused world world'

/-- No transform drops the event, or only black holes come after the one that does. -/
def DropsLast : List (Transform D) → Shared → EventInfo D O → Prop
  | [], _, _ => True
  | tx :: rest, shared, event =>
    let passed := tx.event shared event
    match passed.event with
    | none => ∀ later ∈ rest, later = .BlackHole
    | some event => DropsLast rest passed.shared event

theorem composition_drop {tx : Transform D} {rest : List (Transform D)} {shared : Shared}
    {event : EventInfo D O} (drops : (tx.event shared event).event = none) :
    composition (tx :: rest) shared event =
      ⟨(tx.event shared event).transform :: rest, (tx.event shared event).shared, 1, none⟩ := by
  rw [composition]
  dsimp only
  rw [drops]

theorem composition_pass {tx : Transform D} {rest : List (Transform D)} {shared : Shared}
    {event made : EventInfo D O} (passes : (tx.event shared event).event = some made) :
    composition (tx :: rest) shared event =
      let later := composition rest (tx.event shared event).shared made
      ⟨(tx.event shared event).transform :: later.transforms, later.shared,
        later.applied + 1, later.event⟩ := by
  rw [composition]
  dsimp only
  rw [passes]

theorem dropsLast_drop {tx : Transform D} {rest : List (Transform D)} {shared : Shared}
    {event : EventInfo D O} (drops : (tx.event shared event).event = none) :
    DropsLast (tx :: rest) shared event ↔ ∀ later ∈ rest, later = .BlackHole := by
  rw [DropsLast, drops]

theorem dropsLast_pass {tx : Transform D} {rest : List (Transform D)} {shared : Shared}
    {event made : EventInfo D O} (passes : (tx.event shared event).event = some made) :
    DropsLast (tx :: rest) shared event ↔
      DropsLast rest (tx.event shared event).shared made := by
  rw [DropsLast, passes]

/-! ## What the chain does -/

/-- The chain from one place on. -/
def chainFrom (destinations : List Name) (place transforms : Nat) : EvtHandler Name D O :=
  (List.range' place transforms).foldr transformEvent (toDestination destinations)

theorem chain_eq (destinations : List Name) (transforms : Nat) :
    (chain destinations transforms : EvtHandler Name D O) =
      chainFrom destinations 0 transforms := by
  unfold chain chainFrom
  rw [List.foldl_reverse, List.range_eq_range']

variable {destinations : List Name} {before rest : List (Transform D)} {world : World Name D O}

theorem chainFrom_cons (destinations : List Name) (before : List (Transform D))
    (tx : Transform D) (rest : List (Transform D)) :
    (chainFrom destinations before.length (tx :: rest).length : EvtHandler Name D O) =
      transformEvent before.length
        (chainFrom destinations (before ++ [tx]).length rest.length) := by
  unfold chainFrom
  rw [List.length_cons, List.range'_succ, List.foldr_cons, List.length_append,
    List.length_singleton]

omit [Mul D] [Add D] [LE D] [LT D] [DecidableLE D] [DecidableLT D] in
/-- The transform at the place where the chain stands. -/
theorem transform_at {tx : Transform D} (here : world.transforms = before ++ tx :: rest) :
    world.transforms[before.length]? = some tx := by
  rw [here, List.getElem?_append_right (Nat.le_refl _), Nat.sub_self, List.getElem?_cons_zero]

/-- A null pointer gets through black holes. -/
theorem chainFrom_blackHoles (here : world.transforms = before ++ rest)
    (holes : ∀ later ∈ rest, later = .BlackHole) :
    (chainFrom destinations before.length rest.length : EvtHandler Name D O) none world =
      .ok { world with called := world.called ++ [.UNDEFINED] } := by
  induction rest generalizing before with
  | nil => rfl
  | cons tx rest ih =>
      have hole : tx = .BlackHole := holes tx List.mem_cons_self
      subst hole
      have later := ih (here.trans (List.append_cons before _ rest)) fun tx member =>
        holes tx (List.mem_cons_of_mem _ member)
      rw [chainFrom_cons, transformEvent, transform_at here]
      exact later

/-- A null pointer does not get through anything else. -/
theorem chainFrom_null (here : world.transforms = before ++ rest)
    (reader : ∃ later ∈ rest, later ≠ .BlackHole) :
    (chainFrom destinations before.length rest.length : EvtHandler Name D O) none world =
      .error .nullEvent := by
  induction rest generalizing before with
  | nil =>
      obtain ⟨later, member, -⟩ := reader
      cases member
  | cons tx rest ih =>
      rw [chainFrom_cons, transformEvent, transform_at here]
      by_cases hole : tx = .BlackHole
      · subst hole
        refine ih (here.trans (List.append_cons before _ rest)) ?_
        obtain ⟨later, member, reads⟩ := reader
        rcases List.mem_cons.mp member with first | later'
        · exact absurd first reads
        · exact ⟨later, later', reads⟩
      · cases tx with
        | BlackHole => exact absurd rfl hole
        | _ => rfl

/-- One transform that is given an event. -/
theorem chainFrom_some {tx : Transform D} (here : world.transforms = before ++ tx :: rest)
    (ref : Nat) :
    (chainFrom destinations before.length (tx :: rest).length : EvtHandler Name D O) (some ref)
        world =
      let passed := tx.event world.shared (world.objects ref)
      let next := chainFrom destinations (before ++ [tx]).length rest.length
      let after := { world with
        transforms := before ++ passed.transform :: rest
        shared := passed.shared
        applied := world.applied ++ [before.length] }
      match passed.event with
      | none => next none after
      | some event =>
        next (some ref) { after with objects := Function.update world.objects ref event } := by
  rw [chainFrom_cons, transformEvent, transform_at here]
  have replaced : world.transforms.set before.length
      (tx.event world.shared (world.objects ref)).transform =
        before ++ (tx.event world.shared (world.objects ref)).transform :: rest := by
    rw [here, List.set_append_right _ _ (Nat.le_refl _), Nat.sub_self, List.set_cons_zero]
  dsimp only
  rw [replaced]

/-- What the rest of the chain leaves behind when it is given an event. -/
structure ChainDone (destinations : List Name) (before rest : List (Transform D)) (ref : Nat)
    (world world' : World Name D O) : Prop where
  objects : ∀ other ≠ ref, world'.objects other = world.objects other
  applied : world'.applied = world.applied ++ List.range' before.length
    (composition rest world.shared (world.objects ref)).applied
  keeps :
    world'.transforms =
        before ++ (composition rest world.shared (world.objects ref)).transforms ∧
      world'.shared = (composition rest world.shared (world.objects ref)).shared
  delivers : ∀ made, (composition rest world.shared (world.objects ref)).event = some made →
    world'.delivered = world.delivered ++ destinations.map (fun name => (name, made)) ∧
      world'.called = world.called
  drops : (composition rest world.shared (world.objects ref)).event = none →
    Refused world world'

/-- **A chain in which only black holes come after a drop is the composition.** -/
theorem chainFrom_done (destinations : List Name) (before : List (Transform D))
    (world : World Name D O) (here : world.transforms = before ++ rest) (ref : Nat)
    (safe : DropsLast rest world.shared (world.objects ref)) :
    ∃ world', (chainFrom destinations before.length rest.length : EvtHandler Name D O) (some ref)
        world = .ok world' ∧ ChainDone destinations before rest ref world world' := by
  induction rest generalizing before world with
  | nil =>
      refine ⟨_, rfl, ?_⟩
      exact
        { objects := fun _ _ => rfl
          applied := (List.append_nil _).symm
          keeps := ⟨here, rfl⟩
          delivers := fun made passes => by
            cases passes
            exact ⟨rfl, rfl⟩
          drops := nofun }
  | cons tx rest ih =>
      rw [chainFrom_some here]
      have place : (before ++ [tx]).length =
          (before ++ [(tx.event world.shared (world.objects ref)).transform]).length := by
        rw [List.length_append, List.length_append]
        rfl
      dsimp only
      rw [place]
      match passes : (tx.event world.shared (world.objects ref)).event with
      | none =>
          have holes := (dropsLast_drop passes).mp safe
          dsimp only
          rw [chainFrom_blackHoles (List.append_cons before _ rest) holes]
          refine ⟨_, rfl, ?_⟩
          exact
            { objects := fun _ _ => rfl
              applied := by
                rw [composition_drop passes]
                rfl
              keeps := by
                rw [composition_drop passes]
                exact ⟨rfl, rfl⟩
              delivers := by
                rw [composition_drop passes]
                exact nofun
              drops := fun _ => ⟨rfl, rfl⟩ }
      | some made =>
          have after := (dropsLast_pass passes).mp safe
          dsimp only
          obtain ⟨world', runs, done⟩ := ih (before ++ [_])
            { world with
              transforms := before ++ (tx.event world.shared (world.objects ref)).transform :: rest
              shared := (tx.event world.shared (world.objects ref)).shared
              applied := world.applied ++ [before.length]
              objects := Function.update world.objects ref made }
            (List.append_cons before _ rest) (by
              dsimp only
              rw [Function.update_self]
              exact after)
          refine ⟨world', runs, ?_⟩
          obtain ⟨objects, applied, keeps, delivers, drops⟩ := done
          dsimp only at objects applied keeps delivers drops
          rw [Function.update_self] at applied keeps delivers drops
          exact
            { objects := fun other differs => by
                rw [objects other differs, Function.update_of_ne differs]
              applied := by
                rw [applied, composition_pass passes, List.append_assoc, List.range'_succ,
                  List.length_append]
                rfl
              keeps := by
                rw [composition_pass passes]
                exact ⟨keeps.1.trans (List.append_cons before _ _).symm, keeps.2⟩
              delivers := by
                rw [composition_pass passes]
                exact delivers
              drops := by
                rw [composition_pass passes]
                exact drops }

/-- **A drop before anything but black holes ends the program.** -/
theorem chainFrom_fault (destinations : List Name) (before : List (Transform D))
    (world : World Name D O) (here : world.transforms = before ++ rest) (ref : Nat)
    (early : ¬DropsLast rest world.shared (world.objects ref)) :
    (chainFrom destinations before.length rest.length : EvtHandler Name D O) (some ref)
        world = .error .nullEvent := by
  induction rest generalizing before world with
  | nil => exact absurd trivial early
  | cons tx rest ih =>
      rw [chainFrom_some here]
      have place : (before ++ [tx]).length =
          (before ++ [(tx.event world.shared (world.objects ref)).transform]).length := by
        rw [List.length_append, List.length_append]
        rfl
      dsimp only
      rw [place]
      match passes : (tx.event world.shared (world.objects ref)).event with
      | none =>
          rw [dropsLast_drop passes] at early
          push Not at early
          exact chainFrom_null (List.append_cons before _ rest) early
      | some made =>
          rw [dropsLast_pass passes] at early
          dsimp only
          refine ih (before ++ [_]) _ (List.append_cons before _ rest) ?_
          dsimp only
          rw [Function.update_self]
          exact early

/-! ## When the connector does what it should -/

/-- A connector that is disabled or has no destination reports `UNDEFINED`. -/
theorem connectorEvent_closed {enabled : Bool} {destinations : List Name}
    (closed : enabled = false ∨ destinations = []) (event : Nat) (world : World Name D O) :
    connectorEvent enabled destinations event world =
      .ok { world with called := world.called ++ [.UNDEFINED] } := by
  rcases closed with rfl | rfl
  · rfl
  · cases enabled <;> rfl

theorem handled_closed {enabled : Bool} {destinations : List Name}
    (closed : enabled = false ∨ destinations = []) (event : Nat) (world : World Name D O) :
    Handled enabled destinations event world
      { world with called := world.called ++ [.UNDEFINED] } := by
  have shut : enabled = true → destinations ≠ [] → False := by
    rintro rfl somebody
    exact closed.elim nofun somebody
  exact
    { objects := fun _ _ => rfl
      closed := fun _ => ⟨rfl, rfl⟩
      applied := fun on somebody => (shut on somebody).elim
      keeps := fun on somebody => (shut on somebody).elim
      delivers := fun on somebody => (shut on somebody).elim
      drops := fun on somebody => (shut on somebody).elim }

/-- Otherwise a copy goes through the whole chain. -/
theorem connectorEvent_open {destinations : List Name} (somebody : destinations ≠ [])
    (event : Nat) (world : World Name D O) :
    connectorEvent true destinations event world =
      chainFrom destinations ([] : List (Transform D)).length world.transforms.length
        (some world.allocated) (world.makeShared (world.objects event)) := by
  rw [connectorEvent, if_neg nofun, if_pos (List.length_pos_iff.mpr somebody), chain_eq]
  rfl

omit [Mul D] [Add D] [LE D] [LT D] [DecidableLE D] [DecidableLT D] in
theorem makeShared_object (world : World Name D O) (object : EventInfo D O) :
    (world.makeShared object).objects world.allocated = object := Function.update_self _ _ _

/-- What the chain leaves behind is what the connector should. -/
theorem handled_open {destinations : List Name} (somebody : destinations ≠ []) {event : Nat}
    {world world' : World Name D O}
    (done : ChainDone destinations [] world.transforms world.allocated
      (world.makeShared (world.objects event)) world') :
    Handled true destinations event world world' := by
  obtain ⟨objects, applied, keeps, delivers, drops⟩ := done
  rw [makeShared_object] at applied keeps delivers drops
  exact
    { objects := fun ref old => by
        have differs : ref ≠ world.allocated := Nat.ne_of_lt old
        exact (objects ref differs).trans (Function.update_of_ne differs _ _)
      closed := fun shut => shut.elim nofun fun nobody => absurd nobody somebody
      applied := fun _ _ => by
        rw [applied, List.range_eq_range']
        rfl
      keeps := fun _ _ => keeps
      delivers := fun _ _ => delivers
      drops := fun _ _ => drops }

/-- **A connector handles an event as it should if and only if** it passes no events on, or
no transform drops the event before one that is not a black hole. -/
theorem connectorEvent_handled_iff (enabled : Bool) (destinations : List Name) (event : Nat)
    (world : World Name D O) :
    (∃ world', connectorEvent enabled destinations event world = .ok world' ∧
        Handled enabled destinations event world world') ↔
      enabled = false ∨ destinations = [] ∨
        DropsLast world.transforms world.shared (world.objects event) := by
  by_cases closed : enabled = false ∨ destinations = []
  · refine ⟨fun _ => closed.imp_right .inl, fun _ => ?_⟩
    exact ⟨_, connectorEvent_closed closed event world, handled_closed closed event world⟩
  · push Not at closed
    obtain ⟨on, somebody⟩ := closed
    obtain rfl : enabled = true := Bool.eq_true_of_not_eq_false on
    rw [connectorEvent_open somebody]
    have copied := makeShared_object world (world.objects event)
    constructor
    · rintro ⟨world', runs, -⟩
      refine .inr (.inr ?_)
      by_contra early
      rw [← copied] at early
      have fault := chainFrom_fault destinations [] (world.makeShared (world.objects event)) rfl
        world.allocated early
      rw [fault] at runs
      cases runs
    · rintro (off | nobody | safe)
      · cases off
      · exact absurd nobody somebody
      · rw [← copied] at safe
        obtain ⟨world', runs, done⟩ :=
          chainFrom_done destinations [] (world.makeShared (world.objects event)) rfl
            world.allocated safe
        exact ⟨world', runs, handled_open somebody done⟩

end Chain

/-- A binary event whose index is in no map, and an inversion after the map. -/
def unmappedWorld : World Unit Int (fun _ => Unit) where
  objects _ :=
    { type := .Binary, index := 7, timestamp := 0, quality := 1, sourcePort := "",
      payload := true }
  allocated := 1
  transforms :=
    [.IndexMap ⟨fun _ => none, fun _ => none, fun _ => none, fun _ => none⟩, .LogicInv]
  shared :=
    { rateStatsCollection := fun _ => ⟨10, 100, 10, 0, 0, 0, 0⟩
      msSinceEpoch := fun _ => 0 }

/-- The dropped event ends the program. -/
theorem connectorEvent_dropped_fault :
    ¬∀ (enabled : Bool) (destinations : List Unit) (event : Nat)
        (world : World Unit Int fun _ => Unit),
      ∃ world', connectorEvent enabled destinations event world = .ok world' ∧
        Handled enabled destinations event world world' := by
  intro handled
  obtain ⟨world', runs, -⟩ := handled true [()] 0 unmappedWorld
  have fault : connectorEvent true [()] 0 unmappedWorld = .error .nullEvent := rfl
  rw [fault] at runs
  cases runs

end OpenDataCon.Connectors.TransformChain
