import OpenDataCon.Configuration.Reload

/-!
# What is left when objects are removed

The connectors that are deleted or changed unsubscribe from the ports that they connect
(`Wired.unSubscribe_spec`). Then all objects that are deleted or changed are taken out of the maps
(`takeOut_spec`) and deleted. What is left is wired, but for connectors that stay: they have the
old addresses of ports that are changed (`Removed.wired`), and what is kept of those ports says
which connectors these are (`Saved`).
-/

set_option autoImplicit false

namespace OpenDataCon.Configuration

/-! ## Unsubscribing -/

section Unsubscribing

variable {before after datacon : Concentrator} {delete_or_change : Finset String}

namespace Handler

/-- What is left when these connectors have unsubscribed. -/
def trimmed (names : List String) (handler : Handler) : Handler :=
  { handler with
    Subscribers := handler.Subscribers.filter fun subscriber => subscriber.1 ∉ names }

variable {done : List String} {name : String} {handler : Handler}

theorem trimmed_nil (handler : Handler) : handler.trimmed [] = handler := by
  simp [trimmed]

theorem unSubscribe_trimmed :
    (handler.trimmed done).unSubscribe name = handler.trimmed (done ++ [name]) := by
  simp [trimmed, unSubscribe, and_comm]

theorem trimmed_append_of_absent (absent : ∀ subscriber ∈ handler.Subscribers,
      subscriber.1 ≠ name) : handler.trimmed (done ++ [name]) = handler.trimmed done := by
  unfold trimmed
  congr 1
  exact List.filter_congr fun subscriber member => by simp [absent subscriber member]

theorem mem_trimmed {subscriber : String × Nat} :
    subscriber ∈ (handler.trimmed delete_or_change.sort).Subscribers ↔
      subscriber ∈ handler.Subscribers ∧ subscriber.1 ∉ delete_or_change := by
  simp [trimmed]

end Handler

/-- Each object at one of the addresses changes, once or more often. -/
theorem Concentrator.foldlM_modify {change : Handler → Handler}
    (again : ∀ handler, change (change handler) = change handler) {addresses : List Nat}
    (alive : ∀ address ∈ addresses, ∃ handler, datacon.heap address = some handler) :
    addresses.foldlM (fun datacon address => datacon.modify address change) datacon =
      .ok (datacon.mapHeap fun address handler =>
        if address ∈ addresses then change handler else handler) := by
  induction addresses generalizing datacon with
  | nil =>
      simp only [List.not_mem_nil, if_false, mapHeap_self]
      rfl
  | cons address rest ih =>
      obtain ⟨handler, found⟩ := alive address List.mem_cons_self
      rw [List.foldlM_cons, modify_eq_map _ found]
      change List.foldlM _ _ rest = _
      rw [ih, mapHeap_mapHeap]
      · refine congrArg _ (mapHeap_congr fun {other handler} _ => ?_)
        by_cases here : other = address
        · by_cases inside : other ∈ rest <;> simp [here, again]
        · simp [here]
      · intro other inside
        obtain ⟨handler, found⟩ := alive other (List.mem_cons_of_mem _ inside)
        exact ⟨_, heap_mapHeap found⟩

/-- A subscriber has a connection that leads to where it is subscribed. -/
theorem Wired.connection_of_subscriber (wired : Wired (fun _ _ => False) (fun _ => False) datacon)
    {address : Nat} {handler : Handler} (alive : datacon.heap address = some handler)
    {subscriber : String × Nat} (member : subscriber ∈ handler.Subscribers) :
    ∃ connector, IsConnector datacon subscriber.1 subscriber.2 connector ∧
      address ∈ connector.SenderConnections.map SenderConnection.address := by
  have named := (wired.owned alive).2
  obtain ⟨connector, registered, -, connection, inside, isSender⟩ :=
    wired.subscriber_alive named alive member
  obtain ⟨back, backInside, -, isReceiver⟩ := wired.both registered connection inside
  have listed := wired.connected registered back backInside id
  rw [isReceiver, isSender] at listed
  have here := ((wired.handlers _ _).mpr (.inl listed)).symm.trans named
  exact ⟨connector, registered, List.mem_map.mpr ⟨back, backInside, Option.some_inj.mp here⟩⟩

/-- **All connectors that are deleted or changed are unsubscribed.** -/
theorem Wired.unSubscribe_spec (wired : Wired (fun _ _ => False) (fun _ => False) datacon)
    (registered : ∀ name ∈ delete_or_change, ∃ address handler,
      datacon.IOHandlers name = some address ∧ datacon.heap address = some handler) :
    delete_or_change.sort.foldlM Concentrator.unSubscribeObject datacon =
      .ok (datacon.mapHeap fun _ => Handler.trimmed delete_or_change.sort) := by
  have members : ∀ name ∈ delete_or_change.sort, name ∈ delete_or_change := fun name =>
    (Finset.mem_sort _).mp
  generalize delete_or_change.sort = names at members
  refine @Exceptions.foldlM_eq _ _ _ _ names (fun done => datacon.mapHeap fun _ =>
    Handler.trimmed done) datacon ?_ fun done name before => ?_
  · exact (Concentrator.mapHeap_congr fun _ => Handler.trimmed_nil _).trans
      Concentrator.mapHeap_self
  obtain ⟨address, was, listed, alive⟩ := registered name
    (members name (before.subset (List.mem_append_right done List.mem_cons_self)))
  rw [Concentrator.unSubscribeObject,
    @Concentrator.handlerAt_eq (datacon.mapHeap fun _ => Handler.trimmed done) _ _ listed]
  change (Concentrator.follow _ address >>= _) = _
  rw [Concentrator.follow_eq (Concentrator.heap_mapHeap alive)]
  change (if was.isConnector = true then was.SenderConnections.foldlM
    (fun (datacon : Concentrator) connection =>
      datacon.modify connection.address (Handler.unSubscribe was.Name)) _ else Except.ok _) = _
  rcases wired.cases_handler listed alive with ⟨isPort, isFalse⟩ | ⟨isConnector, isTrue, -⟩
  · rw [isFalse, if_neg Bool.false_ne_true]
    refine congrArg _ (Concentrator.mapHeap_congr fun otherAlive =>
      (Handler.trimmed_append_of_absent fun subscriber member same => ?_).symm)
    obtain ⟨connector, other, -⟩ := wired.connection_of_subscriber otherAlive member
    cases (same ▸ wired.ports_disjoint isPort.listed).symm.trans other.listed
  · have ports : ∀ address ∈ was.SenderConnections.map SenderConnection.address,
        ∃ port, (datacon.mapHeap fun _ => Handler.trimmed done).heap address = some port := by
      intro portAddress member
      obtain ⟨connection, inside, rfl⟩ := List.mem_map.mp member
      obtain ⟨port, portAlive, -⟩ := wired.port (wired.connected isConnector connection inside id)
      exact ⟨_, Concentrator.heap_mapHeap portAlive⟩
    have unsubscribes := @Concentrator.foldlM_modify _ (Handler.unSubscribe was.Name)
      (fun handler => by simp [Handler.unSubscribe]) _ ports
    rw [List.foldlM_map] at unsubscribes
    rw [if_pos isTrue, unsubscribes, Concentrator.mapHeap_mapHeap,
      wired.connector_name isConnector]
    refine congrArg _ (Concentrator.mapHeap_congr fun {other handler} otherAlive => ?_)
    by_cases inside : other ∈ was.SenderConnections.map SenderConnection.address
    · rw [if_pos inside, Handler.unSubscribe_trimmed]
    · rw [if_neg inside]
      refine (Handler.trimmed_append_of_absent fun subscriber member same => inside ?_).symm
      obtain ⟨connector, found, leads⟩ := wired.connection_of_subscriber otherAlive member
      rw [same] at found
      obtain rfl := Option.some_inj.mp (found.listed.symm.trans isConnector.listed)
      obtain rfl := Option.some_inj.mp (found.alive.symm.trans isConnector.alive)
      exact leads

end Unsubscribing

/-! ## Taking out -/

section TakingOut

variable {before datacon : Concentrator} {changed delete_or_change : Finset String}

namespace Concentrator

/-- What is registered under a name. -/
def named (datacon : Concentrator) (name : String) : Option Handler :=
  (datacon.IOHandlers name).bind datacon.heap

theorem named_eq_some_iff {name : String} {handler : Handler} :
    datacon.named name = some handler ↔ ∃ address, datacon.IOHandlers name = some address ∧
      datacon.heap address = some handler :=
  Option.bind_eq_some_iff

theorem named_mapHeap (change : Handler → Handler) (name : String) :
    (datacon.mapHeap fun _ => change).named name = (datacon.named name).map change := by
  unfold named mapHeap
  cases datacon.IOHandlers name <;> rfl

/-- The connectors that stay and need the new address of an object. -/
def bound (datacon : Concentrator) (delete_or_change : Finset String) (name : String) :
    List (String × Nat) :=
  (((datacon.named name).elim [] Handler.Subscribers).filter fun subscriber =>
    subscriber.1 ∉ delete_or_change).map fun subscriber => (name, subscriber.2)

/-- Some of the objects are taken out. -/
def takenOut (datacon : Concentrator) (done : List String) : Concentrator :=
  { datacon with
    IOHandlers := fun name => if name ∈ done then none else datacon.IOHandlers name
    DataPorts := fun name => if name ∈ done then none else datacon.DataPorts name
    DataConnectors := fun name => if name ∈ done then none else datacon.DataConnectors name }

/-- What is kept of the objects that are taken out. -/
def backedUp (datacon : Concentrator) (changed delete_or_change : Finset String)
    (done : List String) : Backup where
  old_subs name :=
    if name ∈ done ∧ name ∈ changed then (datacon.named name).elim [] Handler.Subscribers else []
  old_demands name :=
    if name ∈ done ∧ name ∈ changed then (datacon.named name).elim ∅ Handler.demands else ∅
  needs_new_addr := done.flatMap fun name =>
    if name ∈ changed then datacon.bound delete_or_change name else []
  to_delete := done.flatMap fun name =>
    (datacon.DataPorts name).toList ++ (datacon.DataConnectors name).toList

theorem needsNewAddr_eq {name : String} {subscribers : List (String × Nat)}
    (alive : ∀ subscriber ∈ subscribers, ∃ connector, datacon.heap subscriber.2 = some connector ∧
      connector.isConnector = true) (needs : List (String × Nat)) :
    subscribers.foldlM (datacon.needsNewAddr delete_or_change name) needs =
      .ok (needs ++ (subscribers.filter fun subscriber => subscriber.1 ∉ delete_or_change).map
        fun subscriber => (name, subscriber.2)) := by
  induction subscribers generalizing needs with
  | nil => rw [List.filter_nil, List.map_nil, List.append_nil, List.foldlM_nil]; rfl
  | cons first rest ih =>
      obtain ⟨connector, found, flag⟩ := alive first List.mem_cons_self
      have later := ih fun subscriber inside => alive subscriber (.tail first inside)
      rw [List.foldlM_cons, needsNewAddr, staysConnected, follow_eq found]
      change ((if (connector.isConnector && decide (first.1 ∉ delete_or_change)) = true then
        Except.ok (needs ++ [(name, first.2)]) else Except.ok needs) >>= _) = _
      rw [flag, Bool.true_and]
      by_cases stays : first.1 ∉ delete_or_change
      · rw [if_pos (decide_eq_true stays), List.filter_cons, if_pos (decide_eq_true stays)]
        refine (later _).trans ?_
        rw [List.append_assoc]
        rfl
      · rw [if_neg fun holds => stays (of_decide_eq_true holds), List.filter_cons,
          if_neg fun holds => stays (of_decide_eq_true holds)]
        exact later needs

/-- Another object is taken out. -/
theorem takeOut_eq {done : List String} {name : String} (fresh : name ∉ done) {address : Nat}
    {handler : Handler} (listed : before.IOHandlers name = some address)
    (found : before.heap address = some handler)
    (alive : ∀ subscriber ∈ handler.Subscribers, ∃ connector,
      before.heap subscriber.2 = some connector ∧ connector.isConnector = true) :
    takeOut changed delete_or_change
        (before.takenOut done, before.backedUp changed delete_or_change done) name =
      .ok (before.takenOut (done ++ [name]),
        before.backedUp changed delete_or_change (done ++ [name])) := by
  have here := named_eq_some_iff.mpr ⟨address, listed, found⟩
  have backs : (before.takenOut done).backUp changed delete_or_change
      (before.backedUp changed delete_or_change done) name =
      .ok { before.backedUp changed delete_or_change (done ++ [name]) with
        to_delete := (before.backedUp changed delete_or_change done).to_delete } := by
    unfold backUp
    by_cases isChanged : name ∈ changed
    · rw [if_pos isChanged,
        @handlerAt_eq (before.takenOut done) _ _ ((if_neg fresh).trans listed)]
      change (follow _ address >>= _) = _
      rw [@follow_eq (before.takenOut done) _ _ found]
      change (handler.Subscribers.foldlM (needsNewAddr _ delete_or_change name) _ >>= _) = _
      rw [@needsNewAddr_eq (before.takenOut done) _ _ _ alive]
      refine congrArg Except.ok (Backup.ext ?_ ?_ ?_ rfl)
      · funext other
        by_cases same : other = name
        · simp [backedUp, same, isChanged, here]
        · simp [backedUp, same]
      · funext other
        by_cases same : other = name
        · simp [backedUp, same, isChanged, here]
        · simp [backedUp, same]
      · simp [backedUp, bound, isChanged, here]
    · rw [if_neg isChanged]
      refine congrArg Except.ok (Backup.ext ?_ ?_ ?_ rfl)
      · funext other
        by_cases same : other = name <;> simp [backedUp, same, isChanged]
      · funext other
        by_cases same : other = name <;> simp [backedUp, same, isChanged]
      · simp [backedUp, isChanged]
  have erased : (before.takenOut done).erase name = before.takenOut (done ++ [name]) := by
    unfold erase takenOut
    congr 1 <;>
    · funext other
      by_cases same : other = name <;> simp [same]
  rw [takeOut, backs, ← erased]
  refine congrArg Except.ok (Prod.ext rfl (Backup.ext rfl rfl rfl ?_))
  simp [backedUp, takenOut, fresh]

end Concentrator

/-- **All objects that are deleted or changed are taken out.** -/
theorem takeOut_spec (registered : ∀ name ∈ delete_or_change, ∃ address handler,
      before.IOHandlers name = some address ∧ before.heap address = some handler ∧
        ∀ subscriber ∈ handler.Subscribers, ∃ connector,
          before.heap subscriber.2 = some connector ∧ connector.isConnector = true) :
    delete_or_change.sort.foldlM (Concentrator.takeOut changed delete_or_change) (before, {}) =
      .ok (before.takenOut delete_or_change.sort,
        before.backedUp changed delete_or_change delete_or_change.sort) := by
  have distinct := delete_or_change.sort_nodup (· ≤ ·)
  have members : ∀ name ∈ delete_or_change.sort, name ∈ delete_or_change := fun name =>
    (Finset.mem_sort _).mp
  generalize delete_or_change.sort = names at distinct members
  refine @Exceptions.foldlM_eq _ _ _ _ names (fun done => (before.takenOut done,
    before.backedUp changed delete_or_change done)) (before, {}) ?_ ?_
  · simp [Concentrator.takenOut, Concentrator.backedUp]
  · intro done name prefixes
    obtain ⟨address, handler, listed, found, alive⟩ := registered name
      (members name (prefixes.subset (List.mem_append_right done List.mem_cons_self)))
    refine Concentrator.takeOut_eq (fun inside => ?_) listed found alive
    exact (List.nodup_append.mp (distinct.sublist prefixes.sublist)).2.2 name inside
      name List.mem_cons_self rfl

end TakingOut

/-! ## What is left -/

section Left

variable {before after datacon : Concentrator} {changed delete_or_change : Finset String}

/-- The objects that are deleted or changed are gone, from the maps and from the heap. -/
structure Removed (delete_or_change : Finset String) (before after : Concentrator) : Prop where
  next : after.next = before.next
  gone : ∀ name ∈ delete_or_change, after.IOHandlers name = none ∧ after.DataPorts name = none ∧
    after.DataConnectors name = none
  kept : ∀ name ∉ delete_or_change, after.IOHandlers name = before.IOHandlers name ∧
    after.DataPorts name = before.DataPorts name ∧
      after.DataConnectors name = before.DataConnectors name
  alive : ∀ {address handler}, before.heap address = some handler →
    handler.Name ∉ delete_or_change →
      after.heap address = some (handler.trimmed delete_or_change.sort)
  was : ∀ {address now}, after.heap address = some now → ∃ handler,
    before.heap address = some handler ∧ handler.Name ∉ delete_or_change ∧
      handler.trimmed delete_or_change.sort = now

theorem Wired.removed_of (wired : Wired (fun _ _ => False) (fun _ => False) before) :
    let unsubscribed := before.mapHeap fun _ => Handler.trimmed delete_or_change.sort
    Removed delete_or_change before ((unsubscribed.takenOut delete_or_change.sort).free
      (unsubscribed.backedUp changed delete_or_change delete_or_change.sort).to_delete) := by
  intro unsubscribed
  have named : ∀ {name address handler}, before.DataPorts name = some address ∨
      before.DataConnectors name = some address → before.heap address = some handler →
        handler.Name = name := by
    intro name address handler listed alive
    rcases listed with isPort | isConnector
    · exact wired.port_name ⟨isPort, alive⟩
    · exact wired.connector_name ⟨isConnector, alive⟩
  have deleted : ∀ {address}, address ∈ (unsubscribed.backedUp changed delete_or_change
      delete_or_change.sort).to_delete ↔ ∃ name ∈ delete_or_change,
        before.DataPorts name = some address ∨ before.DataConnectors name = some address := by
    simp [Concentrator.backedUp, unsubscribed, Concentrator.mapHeap]
  generalize (unsubscribed.backedUp changed delete_or_change
    delete_or_change.sort).to_delete = to_delete at deleted ⊢
  refine ⟨rfl, fun name member => ?_, fun name absent => ?_,
    fun {address handler} alive stays => ?_, fun {address now} found => ?_⟩
  · have inside := (Finset.mem_sort (· ≤ ·)).mpr member
    exact ⟨if_pos inside, if_pos inside, if_pos inside⟩
  · have outside := (Finset.mem_sort (· ≤ ·)).not.mpr absent
    exact ⟨if_neg outside, if_neg outside, if_neg outside⟩
  · refine (if_neg fun isDeleted => ?_).trans
      (congrArg (Option.map _) alive)
    obtain ⟨name, member, listed⟩ := deleted.mp isDeleted
    exact stays (named listed alive ▸ member)
  · have kept : address ∉ to_delete := by
      intro isDeleted
      cases (if_pos isDeleted).symm.trans found
    obtain ⟨handler, alive, trimmed⟩ := Option.map_eq_some_iff.mp ((if_neg kept).symm.trans found)
    refine ⟨handler, alive, fun member => kept (deleted.mpr ⟨handler.Name, member, ?_⟩), trimmed⟩
    exact (wired.handlers _ _).mp (wired.owned alive).2

/-- What is kept of the objects that are changed. -/
structure Saved (changed delete_or_change : Finset String) (before : Concentrator)
    (backup : Backup) : Prop where
  old : ∀ name ∈ changed, ∀ handler, before.named name = some handler →
    (∀ subscriber, subscriber ∈ backup.old_subs name ↔
      subscriber ∈ handler.Subscribers ∧ subscriber.1 ∉ delete_or_change) ∧
    backup.old_demands name = handler.demands
  needs : ∀ need, need ∈ backup.needs_new_addr ↔ need.1 ∈ changed ∧
    ∃ handler, before.named need.1 = some handler ∧
      ∃ subscriber, (subscriber, need.2) ∈ handler.Subscribers ∧ subscriber ∉ delete_or_change

theorem saved_of (subset : changed ⊆ delete_or_change) :
    let unsubscribed := before.mapHeap fun _ => Handler.trimmed delete_or_change.sort
    Saved changed delete_or_change before
      (unsubscribed.backedUp changed delete_or_change delete_or_change.sort) := by
  intro unsubscribed
  have named := before.named_mapHeap (Handler.trimmed delete_or_change.sort)
  refine ⟨fun name member handler found => ?_, fun ⟨name, pointer⟩ => ?_⟩
  · have inside := (Finset.mem_sort (· ≤ ·)).mpr (subset member)
    simp only [Concentrator.backedUp, unsubscribed, inside, member, named, found, and_self, if_true]
    exact ⟨fun subscriber => Handler.mem_trimmed, rfl⟩
  · have bound : (name, pointer) ∈ unsubscribed.bound delete_or_change name ↔
        ∃ handler, before.named name = some handler ∧
          ∃ subscriber, (subscriber, pointer) ∈ handler.Subscribers ∧
            subscriber ∉ delete_or_change := by
      rw [Concentrator.bound, named]
      cases before.named name with
      | none => simp
      | some handler => simp [Handler.trimmed]
    rw [← bound]
    simp only [Concentrator.backedUp, List.mem_flatMap, Finset.mem_sort]
    constructor
    · rintro ⟨other, -, inside⟩
      split at inside
      · next isChanged =>
          obtain ⟨subscriber, -, same⟩ := List.mem_map.mp inside
          obtain rfl : other = name := congrArg Prod.fst same
          exact ⟨isChanged, inside⟩
      · exact absurd inside List.not_mem_nil
    · rintro ⟨isChanged, inside⟩
      exact ⟨name, subset isChanged, by rwa [if_pos isChanged]⟩

theorem Wired.named_port {stale : Nat → String → Prop} {bare : String → Prop}
    (wired : Wired stale bare datacon) {name : String} {address : Nat} {port : Handler}
    (isPort : IsPort datacon name address port) : datacon.named name = some port :=
  Concentrator.named_eq_some_iff.mpr
    ⟨address, (wired.handlers name address).mpr (.inl isPort.listed), isPort.alive⟩

/-- A connector has connections with ports that are registered. -/
theorem Wired.port_of_connects (wired : Wired (fun _ _ => False) (fun _ => False) datacon)
    {name sender : String} {address : Nat} {connector : Handler}
    (registered : IsConnector datacon name address connector)
    (connects : Connects connector sender) :
    ∃ portAddress port, IsPort datacon sender portAddress port ∧
      (name, address) ∈ port.Subscribers := by
  obtain ⟨connection, inside, isSender⟩ := connects
  obtain ⟨other, otherInside, -, back⟩ := wired.both registered connection inside
  have listed := wired.connected registered other otherInside id
  rw [back, isSender] at listed
  obtain ⟨port, alive, -⟩ := wired.port listed
  exact ⟨_, port, ⟨listed, alive⟩, (wired.subscribed ⟨listed, alive⟩ id name address).mpr
    ⟨connector, registered, connection, inside, isSender⟩⟩

/-- A connector that stays, as it was. -/
theorem Removed.isConnector_iff (wired : Wired (fun _ _ => False) (fun _ => False) before)
    (removed : Removed delete_or_change before after) {name : String} {address : Nat}
    {connector : Handler} : IsConnector after name address connector ↔
      IsConnector before name address connector ∧ name ∉ delete_or_change := by
  have same : ∀ {was : Handler}, IsConnector before name address was →
      was.trimmed delete_or_change.sort = was := by
    intro was registered
    obtain ⟨other, found, -, -, none⟩ := wired.connector registered.listed
    obtain rfl := Option.some_inj.mp (found.symm.trans registered.alive)
    rw [Handler.trimmed, none, List.filter_nil, ← none]
  constructor
  · intro registered
    have stays : name ∉ delete_or_change := by
      intro member
      cases (removed.gone name member).2.2.symm.trans registered.listed
    obtain ⟨was, found, -, trimmed⟩ := removed.was registered.alive
    have old : IsConnector before name address was :=
      ⟨(removed.kept name stays).2.2.symm.trans registered.listed, found⟩
    obtain rfl : was = connector := (same old).symm.trans trimmed
    exact ⟨old, stays⟩
  · rintro ⟨old, stays⟩
    refine ⟨(removed.kept name stays).2.2.trans old.listed, ?_⟩
    have found := removed.alive old.alive ((wired.connector_name old).symm ▸ stays)
    rwa [same old] at found

/-- **What is left is wired**, but for the addresses of ports that are changed. -/
theorem Removed.wired (wired : Wired (fun _ _ => False) (fun _ => False) before)
    (removed : Removed delete_or_change before after)
    (leavesNone : ∀ name ∈ delete_or_change, name ∉ changed → ∀ address port,
      IsPort before name address port → ∀ subscriber ∈ port.Subscribers,
        subscriber.1 ∈ delete_or_change) :
    Wired (fun address receiver => address < before.next ∧ receiver ∈ changed) (fun _ => False)
      after := by
  have stays : ∀ {name address}, after.IOHandlers name = some address ∨
      after.DataPorts name = some address ∨ after.DataConnectors name = some address →
        name ∉ delete_or_change := by
    intro name address listed member
    obtain ⟨noHandler, noPort, noConnector⟩ := removed.gone name member
    rw [noHandler, noPort, noConnector] at listed
    rcases listed with none | none | none <;> cases none
  refine ⟨fun name address => ?_, ?_, ?_, ?_, ?_, ?_, ?_⟩
  · by_cases member : name ∈ delete_or_change
    · obtain ⟨noHandler, noPort, noConnector⟩ := removed.gone name member
      rw [noHandler, noPort, noConnector]
      simp
    · obtain ⟨handlers, ports, connectors⟩ := removed.kept name member
      rw [handlers, ports, connectors]
      exact wired.handlers name address
  · intro name address listed
    have other := stays (.inr (.inl listed))
    rw [(removed.kept name other).2.1] at listed
    obtain ⟨port, alive, named, flag⟩ := wired.port listed
    exact ⟨_, removed.alive alive (named ▸ other), named, flag⟩
  · intro name address listed
    have other := stays (.inr (.inr listed))
    rw [(removed.kept name other).2.2] at listed
    obtain ⟨connector, alive, rest⟩ := wired.connector listed
    have registered := (removed.isConnector_iff wired).mpr ⟨⟨listed, alive⟩, other⟩
    exact ⟨connector, registered.alive, rest⟩
  · intro address now found
    obtain ⟨was, alive, other, rfl⟩ := removed.was found
    obtain ⟨used, listed⟩ := wired.owned alive
    rw [removed.next]
    exact ⟨used, (removed.kept _ other).1.trans listed⟩
  · exact fun registered => wired.both ((removed.isConnector_iff wired).mp registered).1
  · intro name address connector registered connection inside current
    obtain ⟨old, other⟩ := (removed.isConnector_iff wired).mp registered
    have listed := wired.connected old connection inside id
    rw [← listed]
    refine (removed.kept _ fun member => other ?_).2.1
    have notChanged : connection.receiver ∉ changed := fun isChanged =>
      current ⟨wired.lt_next_of_connector old.listed, isChanged⟩
    obtain ⟨back, backInside, isSender, -⟩ := wired.both old connection inside
    obtain ⟨portAddress, port, isPort, subscribes⟩ :=
      wired.port_of_connects old ⟨back, backInside, isSender⟩
    exact leavesNone _ member notChanged portAddress port isPort _ subscribes
  · intro name address now registered _ subscriber pointer
    have other := stays (.inr (.inl registered.listed))
    obtain ⟨was, alive, -, rfl⟩ := removed.was registered.alive
    have isPort : IsPort before name address was :=
      ⟨(removed.kept name other).2.1.symm.trans registered.listed, alive⟩
    rw [Handler.mem_trimmed, wired.subscribed isPort id, and_comm, ← exists_and_left]
    refine exists_congr fun connector => ?_
    rw [removed.isConnector_iff wired, ← and_assoc]
    exact and_congr_left fun _ => and_comm

end Left

end OpenDataCon.Configuration
