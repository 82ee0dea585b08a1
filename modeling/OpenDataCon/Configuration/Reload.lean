import OpenDataCon.Configuration.Wiring
import OpenDataCon.Configuration.ChangeDetection
import Mathlib.Data.Finset.Sort
import Mathlib.Data.String.Basic

/-!
# A configuration is loaded again

A reload compares the two configurations. It refuses when a port is deleted that a connector would
still point to. Otherwise it disables the objects that are deleted or changed, and the ports that
their connectors connect, and waits until all threads are parked (`prepare`).

Then the connectors are unsubscribed, the objects are taken out and deleted, and the ones of the
new configuration are created. Ports that were changed get back their subscribers, and connectors
that were not changed get the addresses of the ports that were (`apply`).
-/

set_option autoImplicit false

namespace OpenDataCon.Configuration

/-! ## The plan of a reload -/

/-- The collections of a main configuration file. -/
structure MainConf (E : Type) where
  Ports : List (Object E) := []
  Connectors : List (Object E) := []
  Plugins : List (Object E) := []

/-- A reload is asked for: what is read from the files, and what is kept of the old ones. -/
structure Request (E : Type) where
  newFiles : List (String × JSONRoot E)
  old_file_confs : FileConfs E
  new_main_conf : MainConf E
  reading : Reading E

/-- What a reload has found out when it waits until all threads are parked. -/
structure Plan (E : Type) where
  new_main_conf : MainConf E
  reading : Reading E
  Ports : List (Object E)
  Connectors : List (Object E)
  changed : Finset String
  delete_or_change : Finset String
  reenable : Finset String

inductive Prepared (E : Type) where
  | refused
  | finished
  | waiting (plan : Plan E) (datacon : Concentrator)

/-- Objects of the old configuration that were never constructed are not deleted, and they are
created when they were changed. -/
def Changes.withoutMissing (changes : Changes) (datacon : Concentrator) : Changes :=
  let not_found := (changes.deleted ∪ changes.changed).filter fun name =>
    datacon.IOHandlers name = none
  { created := changes.created ∪ changes.changed ∩ not_found
    changed := changes.changed \ not_found
    deleted := changes.deleted \ not_found }

namespace Concentrator

/-- `GetIOHandlers().at(name)`. -/
def handlerAt (datacon : Concentrator) (name : String) : Except Fault Nat :=
  match datacon.IOHandlers name with
  | some address => .ok address
  | none => .error .outOfRange

/-- A subscriber is a connector that stays. -/
def staysConnected (datacon : Concentrator) (delete_or_change : Finset String)
    (subscriber : String × Nat) : Except Fault Bool := do
  let handler ← datacon.follow subscriber.2
  return handler.isConnector && decide (subscriber.1 ∉ delete_or_change)

def anySubscriberStays (datacon : Concentrator) (delete_or_change : Finset String)
    (name : String) : Except Fault Bool := do
  let address ← datacon.handlerAt name
  let handler ← datacon.follow address
  handler.Subscribers.anyM (datacon.staysConnected delete_or_change)

/-- A connector would be left with a pointer to a port that is deleted. -/
def leavesDangling (datacon : Concentrator) (deleted delete_or_change : Finset String) :
    Except Fault Bool :=
  deleted.sort.anyM (datacon.anySubscriberStays delete_or_change)

/-- The other end of a connection is disabled for the time of the reload. -/
def disableConnected (delete_or_change : Finset String) (state : Concentrator × Finset String)
    (connection : SenderConnection) : Except Fault (Concentrator × Finset String) := do
  let port ← state.1.follow connection.address
  if port.enabled = true ∧ port.Name ∉ delete_or_change then
    let datacon ← state.1.modify connection.address fun port => { port with enabled := false }
    return (datacon, insert port.Name state.2)
  else return state

def disableObject (delete_or_change : Finset String) (state : Concentrator × Finset String)
    (name : String) : Except Fault (Concentrator × Finset String) := do
  let address ← state.1.handlerAt name
  let handler ← state.1.follow address
  let datacon ← state.1.modify address fun handler => { handler with enabled := false }
  if handler.isConnector then
    handler.SenderConnections.foldlM (disableConnected delete_or_change) (datacon, state.2)
  else return (datacon, state.2)

end Concentrator

section Prepare

variable {E : Type} [Inhabited E] [DecidableEq E]

/-- The part of `ReloadConfig` before the threads are parked. -/
def prepare (request : Request E) (old_main_conf : MainConf E) (datacon : Concentrator) :
    Except Fault (Prepared E) :=
  let new_main_conf := request.new_main_conf
  if new_main_conf.Ports = [] ∧ new_main_conf.Connectors = [] ∧ new_main_conf.Plugins = [] then
    .ok .refused
  else
    let Ports := findChangedConfs request.newFiles request.old_file_confs old_main_conf.Ports
      new_main_conf.Ports {}
    let Connectors := findChangedConfs request.newFiles Ports.old_file_confs
      old_main_conf.Connectors new_main_conf.Connectors Ports.changes
    let Plugins := findChangedConfs request.newFiles Connectors.old_file_confs
      old_main_conf.Plugins new_main_conf.Plugins {}
    let IOHs := Connectors.changes
    let IUIs := Plugins.changes
    if IOHs.created.card + IOHs.changed.card + IOHs.deleted.card + IUIs.created.card +
        IUIs.changed.card + IUIs.deleted.card = 0 then
      .ok .finished
    else
      let changes := IOHs.withoutMissing datacon
      let delete_or_change := changes.deleted ∪ changes.changed
      do
        if ← datacon.leavesDangling changes.deleted delete_or_change then
          return .refused
        else
          let (disabled, reenable) ← delete_or_change.sort.foldlM
            (Concentrator.disableObject delete_or_change) (datacon, ∅)
          let plan : Plan E := {
            new_main_conf
            reading := request.reading
            Ports := Ports.changed_confs
            Connectors := Connectors.changed_confs
            changed := changes.changed
            delete_or_change
            reenable }
          return .waiting plan disabled

end Prepare

/-! ## The new configuration is applied -/

/-- What is kept of the objects that are deleted or changed. -/
@[ext]
structure Backup where
  old_subs : String → List (String × Nat) := fun _ => []
  old_demands : String → Finset String := fun _ => ∅
  needs_new_addr : List (String × Nat) := []
  to_delete : List Nat := []

namespace Handler

/-- A port that was changed gets back its subscribers, and hears of those who had it in demand. -/
def restore (old_subs : List (String × Nat)) (old_demands : Finset String) (handler : Handler) :
    Handler :=
  let subscribed := old_subs.foldl (fun handler sub_pair =>
    handler.subscribe sub_pair.1 sub_pair.2) handler
  { subscribed with demands := subscribed.demands ∪ old_demands }

def replaceAddress (PortName : String) (Addr : Nat) (handler : Handler) : Handler :=
  { handler with
    SenderConnections := handler.SenderConnections.map fun connection =>
      if connection.receiver = PortName then { connection with address := Addr } else connection }

end Handler

namespace Concentrator

def unSubscribeObject (datacon : Concentrator) (name : String) : Except Fault Concentrator := do
  let address ← datacon.handlerAt name
  let handler ← datacon.follow address
  if handler.isConnector then
    handler.SenderConnections.foldlM (fun datacon connection =>
      datacon.modify connection.address (Handler.unSubscribe handler.Name)) datacon
  else return datacon

/-- Connectors that stay need the new address of a port that is changed. -/
def needsNewAddr (datacon : Concentrator) (delete_or_change : Finset String) (name : String)
    (needs_new_addr : List (String × Nat)) (subscriber : String × Nat) :
    Except Fault (List (String × Nat)) := do
  let stays ← datacon.staysConnected delete_or_change subscriber
  if stays then return needs_new_addr ++ [(name, subscriber.2)]
  else return needs_new_addr

def backUp (datacon : Concentrator) (changed delete_or_change : Finset String) (backup : Backup)
    (name : String) : Except Fault Backup :=
  if name ∈ changed then do
    let address ← datacon.handlerAt name
    let handler ← datacon.follow address
    let needs_new_addr ← handler.Subscribers.foldlM
      (datacon.needsNewAddr delete_or_change name) backup.needs_new_addr
    return { backup with
      old_subs := Function.update backup.old_subs name handler.Subscribers
      old_demands := Function.update backup.old_demands name handler.demands
      needs_new_addr }
  else .ok backup

def erase (datacon : Concentrator) (name : String) : Concentrator :=
  { datacon with
    IOHandlers := Function.update datacon.IOHandlers name none
    DataPorts := Function.update datacon.DataPorts name none
    DataConnectors := Function.update datacon.DataConnectors name none }

def takeOut (changed delete_or_change : Finset String) (state : Concentrator × Backup)
    (name : String) : Except Fault (Concentrator × Backup) := do
  let backup ← state.1.backUp changed delete_or_change state.2 name
  return (state.1.erase name, { backup with
    to_delete := backup.to_delete ++ (state.1.DataPorts name).toList ++
      (state.1.DataConnectors name).toList })

/-- The destructors run. -/
def free (datacon : Concentrator) (to_delete : List Nat) : Concentrator :=
  { datacon with
    heap := fun address => if address ∈ to_delete then none else datacon.heap address }

def restoreObject (backup : Backup) (datacon : Concentrator) (name : String) :
    Except Fault Concentrator :=
  match datacon.IOHandlers name with
  | none => .ok datacon
  | some address => do
    let handler ← datacon.follow address
    if handler.isConnector then return datacon
    else
      datacon.modify address (Handler.restore (backup.old_subs name) (backup.old_demands name))

/-- The connectors that stay get the new address. -/
def replaceAddresses (backup : Backup) (datacon : Concentrator) (name : String) :
    Except Fault Concentrator :=
  let bounds := backup.needs_new_addr.filter fun needs => needs.1 = name
  match datacon.IOHandlers name with
  | some address => bounds.foldlM (fun datacon needs =>
      datacon.modify needs.2 (Handler.replaceAddress name address)) datacon
  | none => if bounds.length ≠ 0 then .error .failedTerminally else .ok datacon

def enableAgain (datacon : Concentrator) (name : String) : Except Fault Concentrator := do
  let address ← datacon.handlerAt name
  datacon.modify address fun handler => { handler with enabled := true }

end Concentrator

/-- The part of `ReloadConfig` from where the threads are parked. -/
def apply {E : Type} (plan : Plan E) (datacon : Concentrator) : Except Fault Concentrator := do
  let unsubscribed ← plan.delete_or_change.sort.foldlM Concentrator.unSubscribeObject datacon
  let (erased, backup) ← plan.delete_or_change.sort.foldlM
    (Concentrator.takeOut plan.changed plan.delete_or_change) (unsubscribed, {})
  let ports := (erased.free backup.to_delete).processPorts plan.reading plan.Ports
  let restored ← plan.changed.sort.foldlM (Concentrator.restoreObject backup) ports
  let connectors ← restored.processConnectors plan.reading plan.Connectors
  let replaced ← plan.changed.sort.foldlM (Concentrator.replaceAddresses backup) connectors
  plan.reenable.sort.foldlM Concentrator.enableAgain replaced

/-! ## The running system -/

section System

variable {E : Type} [Inhabited E] [DecidableEq E]

/-- The ports and connectors of the configuration that the system starts with. -/
def start (reading : Reading E) (main_conf : MainConf E) : Except Fault Concentrator :=
  (({} : Concentrator).processPorts reading main_conf.Ports).processConnectors reading
    main_conf.Connectors

/-- A reload may be waiting until all threads are parked. -/
structure System (E : Type) where
  main_conf : MainConf E
  datacon : Concentrator
  waiting : Option (Plan E) := none

/-- A reload is asked for; while another one is in progress it fails. -/
def System.reload (system : System E) (request : Request E) : Except Fault (System E) :=
  match system.waiting with
  | some _ => .ok system
  | none => do
    match ← prepare request system.main_conf system.datacon with
    | .refused => return system
    | .finished => return { system with main_conf := request.new_main_conf }
    | .waiting plan datacon => return { system with datacon, waiting := some plan }

/-- All threads are parked. -/
def System.parked (system : System E) : Except Fault (System E) :=
  match system.waiting with
  | none => .ok system
  | some plan => do
    let datacon ← apply plan system.datacon
    return { main_conf := plan.new_main_conf, datacon }

end System

/-! ## Configurations that can be loaded -/

section Configurations

variable {E : Type}

/-- Entries that have what they need, no name twice, and connections that name no connector. -/
structure MainConf.Valid (conf : MainConf E) (reading : Reading E) : Prop where
  namedPorts : ∀ object ∈ conf.Ports, object.Name ≠ none
  namedConnectors : ∀ object ∈ conf.Connectors, object.Name ≠ none
  portComplete : ∀ object ∈ conf.Ports, reading.portComplete object = true
  connectorComplete : ∀ object ∈ conf.Connectors, reading.connectorComplete object = true
  distinctPorts : (names conf.Ports).Nodup
  distinctConnectors : (names conf.Connectors).Nodup
  apart : ∀ name ∈ names conf.Ports, name ∉ names conf.Connectors
  portsOnly : ∀ object ∈ conf.Connectors, ∀ connection ∈ reading.connectionsOf object,
    ∀ port, port = connection.1 ∨ port = connection.2 → port ∉ names conf.Connectors

/-- The objects of a configuration are those that are registered, and soundly wired. -/
structure Sound (conf : MainConf E) (datacon : Concentrator) : Prop where
  wired : Wired (fun _ _ => False) (fun _ => False) datacon
  ports : ∀ name, name ∈ names conf.Ports ↔ ∃ address, datacon.DataPorts name = some address
  connectors : ∀ name, name ∈ names conf.Connectors ↔
    ∃ address, datacon.DataConnectors name = some address

theorem Sound.registered {conf : MainConf E} {datacon : Concentrator} (sound : Sound conf datacon)
    {name : String} (member : name ∈ names conf.Ports ∨ name ∈ names conf.Connectors) :
    ∃ address handler, datacon.IOHandlers name = some address ∧
      datacon.heap address = some handler := by
  rcases member with isPort | isConnector
  · obtain ⟨address, listed⟩ := (sound.ports name).mp isPort
    obtain ⟨port, alive, -⟩ := sound.wired.port listed
    exact ⟨address, port, (sound.wired.handlers name address).mpr (.inl listed), alive⟩
  · obtain ⟨address, listed⟩ := (sound.connectors name).mp isConnector
    obtain ⟨connector, alive, -⟩ := sound.wired.connector listed
    exact ⟨address, connector, (sound.wired.handlers name address).mpr (.inr listed), alive⟩

theorem Sound.no_port {conf : MainConf E} {datacon : Concentrator} (sound : Sound conf datacon)
    {name : String} (absent : name ∉ names conf.Ports) : datacon.DataPorts name = none :=
  Option.eq_none_iff_forall_not_mem.mpr fun address listed =>
    absent ((sound.ports name).mpr ⟨address, listed⟩)

theorem Sound.no_connector {conf : MainConf E} {datacon : Concentrator}
    (sound : Sound conf datacon) {name : String} (absent : name ∉ names conf.Connectors) :
    datacon.DataConnectors name = none :=
  Option.eq_none_iff_forall_not_mem.mpr fun address listed =>
    absent ((sound.connectors name).mpr ⟨address, listed⟩)

theorem Sound.apart {conf : MainConf E} {datacon : Concentrator} (sound : Sound conf datacon)
    {name : String} (isPort : name ∈ names conf.Ports) : name ∉ names conf.Connectors := by
  intro isConnector
  obtain ⟨address, listed⟩ := (sound.ports name).mp isPort
  obtain ⟨other, otherListed⟩ := (sound.connectors name).mp isConnector
  cases (sound.wired.ports_disjoint listed).symm.trans otherListed

end Configurations

/-! ## What is found to be different -/

section Found

variable {E : Type} [Inhabited E] [DecidableEq E] {old new : MainConf E} {reading : Reading E}

/-- The names of the objects that are created, changed and deleted, with the entries of those that
are created or changed. -/
structure Found (old new : MainConf E) (Ports Connectors : List (Object E)) (changes : Changes) :
    Prop where
  Ports : Ports = new.Ports.filter fun object => object.Name.any fun name =>
    name ∈ changes.created ∨ name ∈ changes.changed
  Connectors : Connectors = new.Connectors.filter fun object => object.Name.any fun name =>
    name ∈ changes.created ∨ name ∈ changes.changed
  created : ∀ name, name ∈ changes.created ↔
    name ∈ names new.Ports ∧ name ∉ names old.Ports ∨
      name ∈ names new.Connectors ∧ name ∉ names old.Connectors
  changed : ∀ name ∈ changes.changed,
    name ∈ names new.Ports ∧ name ∈ names old.Ports ∨
      name ∈ names new.Connectors ∧ name ∈ names old.Connectors
  deleted : ∀ name, name ∈ changes.deleted ↔
    name ∈ names old.Ports ∧ name ∉ names new.Ports ∨
      name ∈ names old.Connectors ∧ name ∉ names new.Connectors

omit [Inhabited E] [DecidableEq E] in
theorem mem_deletedNames_of_named {old new : List (Object E)}
    (named : ∀ object ∈ old, object.Name ≠ none) {deleted : Finset String} {name : String} :
    name ∈ deletedNames old new deleted ↔
      name ∈ deleted ∨ name ∈ names old ∧ name ∉ names new := by
  refine (deleted_iff deleted).mpr (fun unnamed => ?_) name
  obtain ⟨object, member, isNone⟩ := List.mem_map.mp unnamed
  exact absurd isNone (named object member)

/-- A name that is found to be changed is that of an old entry and of a new one. -/
theorem mem_names_of_changed {newFiles : List (String × JSONRoot E)}
    {old_file_confs : FileConfs E} {old new : List (Object E)} {changes : Changes} {name : String}
    (found : name ∈ (findChangedConfs newFiles old_file_confs old new changes).changes.changed) :
    name ∈ changes.changed ∨ name ∈ names new ∧ name ∈ names old := by
  refine (((foldl_compare_spec new { changes, old_file_confs }).changed name).mp found).imp_right ?_
  rintro ⟨object, member, named, old_object, inside, -⟩
  refine ⟨mem_names.mpr ⟨object, member, named⟩, ?_⟩
  by_contra absent
  rw [oldObject_eq_none_iff.mpr absent] at inside
  cases inside

/-- **The two collections are compared one after the other.** -/
theorem found_spec (valid : new.Valid reading)
    (namedPorts : ∀ object ∈ old.Ports, object.Name ≠ none)
    (namedConnectors : ∀ object ∈ old.Connectors, object.Name ≠ none)
    (newFiles : List (String × JSONRoot E)) (confs confs' : FileConfs E) :
    let Ports := findChangedConfs newFiles confs old.Ports new.Ports {}
    let Connectors := findChangedConfs newFiles confs' old.Connectors new.Connectors Ports.changes
    Found old new Ports.changed_confs Connectors.changed_confs Connectors.changes := by
  intro Ports Connectors
  have createdPorts : ∀ name, name ∈ Ports.changes.created ↔
      name ∈ names new.Ports ∧ name ∉ names old.Ports := fun name =>
    (mem_created_iff name).trans (or_iff_right (Finset.notMem_empty name))
  have changedPorts : ∀ name ∈ Ports.changes.changed,
      name ∈ names new.Ports ∧ name ∈ names old.Ports := fun name found =>
    (mem_names_of_changed found).resolve_left (Finset.notMem_empty name)
  have created : ∀ name, name ∈ Connectors.changes.created ↔
      name ∈ Ports.changes.created ∨ name ∈ names new.Connectors ∧ name ∉ names old.Connectors :=
    mem_created_iff
  have changed : ∀ name ∈ Connectors.changes.changed, name ∈ Ports.changes.changed ∨
      name ∈ names new.Connectors ∧ name ∈ names old.Connectors := fun name =>
    mem_names_of_changed
  have kept : ∀ name ∈ Ports.changes.changed, name ∈ Connectors.changes.changed := fun name found =>
    ((foldl_compare_spec new.Connectors ⟨[], Ports.changes, confs'⟩).changed name).mpr (.inl found)
  refine ⟨?_, ?_, fun name => ?_, fun name found => ?_, fun name => ?_⟩
  · refine (changed_confs_eq valid.distinctPorts fun name _ =>
      ⟨Finset.notMem_empty name, Finset.notMem_empty name⟩).trans ?_
    refine List.filter_congr fun object member => ?_
    cases named : object.Name with
    | none => rfl
    | some name =>
        have inPorts : name ∈ names new.Ports := mem_names.mpr ⟨object, member, named⟩
        have notConnector := valid.apart name inPorts
        rw [Option.any_some, Option.any_some, decide_eq_decide]
        refine or_congr ?_ ⟨kept name, fun found => ?_⟩
        · exact ((created name).trans (or_iff_left fun other => notConnector other.1)).symm
        · exact (changed name found).resolve_right fun other => notConnector other.1
  · refine changed_confs_eq valid.distinctConnectors fun name member => ⟨fun found => ?_, ?_⟩
    · exact valid.apart name ((createdPorts name).mp found).1 member
    · exact fun found => valid.apart name (changedPorts name found).1 member
  · exact (created name).trans (or_congr_left (createdPorts name))
  · exact (changed name found).imp_left (changedPorts name)
  · have deletedPorts : Ports.changes.deleted = deletedNames old.Ports new.Ports ∅ := deleted_eq
    have deleted : Connectors.changes.deleted =
        deletedNames old.Connectors new.Connectors Ports.changes.deleted := deleted_eq
    rw [deleted, deletedPorts, mem_deletedNames_of_named namedConnectors,
      mem_deletedNames_of_named namedPorts, or_iff_right (Finset.notMem_empty name)]

omit [Inhabited E] [DecidableEq E] in
/-- The objects that are deleted or changed are registered. -/
theorem Found.registered {Ports Connectors : List (Object E)} {changes : Changes}
    {datacon : Concentrator} (found : Found old new Ports Connectors changes)
    (sound : Sound old datacon) : ∀ name ∈ changes.deleted ∪ changes.changed,
    ∃ address handler, datacon.IOHandlers name = some address ∧
      datacon.heap address = some handler := by
  intro name member
  refine sound.registered ?_
  rcases Finset.mem_union.mp member with isDeleted | isChanged
  · exact ((found.deleted name).mp isDeleted).imp And.left And.left
  · exact (found.changed name isChanged).imp And.right And.right

omit [Inhabited E] [DecidableEq E] in
/-- All objects of the old configuration were constructed. -/
theorem Found.withoutMissing {Ports Connectors : List (Object E)} {changes : Changes}
    {datacon : Concentrator} (found : Found old new Ports Connectors changes)
    (sound : Sound old datacon) : changes.withoutMissing datacon = changes := by
  have none_missing : (changes.deleted ∪ changes.changed).filter (fun name =>
      datacon.IOHandlers name = none) = ∅ := by
    refine Finset.filter_eq_empty_iff.mpr fun name member => ?_
    obtain ⟨address, handler, listed, -⟩ := found.registered sound name member
    rw [listed]
    exact Option.some_ne_none address
  unfold Changes.withoutMissing
  dsimp only
  rw [none_missing, Finset.inter_empty, Finset.union_empty, Finset.sdiff_empty, Finset.sdiff_empty]

end Found

/-! ## Pointers that would dangle -/

section Pointers

variable {stale : Nat → String → Prop} {bare : String → Prop} {datacon : Concentrator}
  {delete_or_change : Finset String}

theorem Concentrator.follow_eq {address : Nat} {handler : Handler}
    (alive : datacon.heap address = some handler) : datacon.follow address = .ok handler := by
  rw [follow, alive]

theorem Concentrator.handlerAt_eq {name : String} {address : Nat}
    (listed : datacon.IOHandlers name = some address) :
    datacon.handlerAt name = .ok address := by
  rw [handlerAt, listed]

/-- What is registered under a name is a port with its subscribers or a connector. -/
theorem Wired.cases_handler (wired : Wired stale bare datacon) {name : String} {address : Nat}
    {handler : Handler} (listed : datacon.IOHandlers name = some address)
    (alive : datacon.heap address = some handler) :
    IsPort datacon name address handler ∧ handler.isConnector = false ∨
      IsConnector datacon name address handler ∧ handler.isConnector = true ∧
        handler.Subscribers = [] := by
  rcases (wired.handlers name address).mp listed with isPort | isConnector
  · obtain ⟨port, found, -, flag⟩ := wired.port isPort
    obtain rfl := Option.some_inj.mp (found.symm.trans alive)
    exact .inl ⟨⟨isPort, alive⟩, flag⟩
  · obtain ⟨connector, found, -, flag, none⟩ := wired.connector isConnector
    obtain rfl := Option.some_inj.mp (found.symm.trans alive)
    exact .inr ⟨⟨isConnector, alive⟩, flag, none⟩

/-- A subscriber of an object that is registered is a connector that is alive. -/
theorem Wired.subscriber_alive (wired : Wired stale (fun _ => False) datacon) {name : String}
    {address : Nat} {handler : Handler} (listed : datacon.IOHandlers name = some address)
    (alive : datacon.heap address = some handler) {subscriber : String × Nat}
    (member : subscriber ∈ handler.Subscribers) :
    ∃ connector, IsConnector datacon subscriber.1 subscriber.2 connector ∧
      connector.isConnector = true ∧ Connects connector name := by
  rcases wired.cases_handler listed alive with ⟨isPort, -⟩ | ⟨-, -, none⟩
  · obtain ⟨connector, registered, connects⟩ :=
      (wired.subscribed isPort id subscriber.1 subscriber.2).mp member
    refine ⟨connector, registered, ?_, connects⟩
    obtain ⟨other, found, -, flag, -⟩ := wired.connector registered.listed
    obtain rfl := Option.some_inj.mp (found.symm.trans registered.alive)
    exact flag
  · rw [none] at member
    exact absurd member List.not_mem_nil

theorem Wired.staysConnected_eq (wired : Wired stale (fun _ => False) datacon) {name : String}
    {address : Nat} {handler : Handler} (listed : datacon.IOHandlers name = some address)
    (alive : datacon.heap address = some handler) {subscriber : String × Nat}
    (member : subscriber ∈ handler.Subscribers) :
    datacon.staysConnected delete_or_change subscriber =
      .ok (decide (subscriber.1 ∉ delete_or_change)) := by
  obtain ⟨connector, registered, flag, -⟩ := wired.subscriber_alive listed alive member
  rw [Concentrator.staysConnected, Concentrator.follow_eq registered.alive]
  change Except.ok (connector.isConnector && _) = _
  rw [flag, Bool.true_and]

/-- **Whether a connector would point to a port that is deleted.** -/
theorem Wired.leavesDangling_spec (wired : Wired stale (fun _ => False) datacon)
    {deleted : Finset String} (registered : ∀ name ∈ deleted, ∃ address handler,
      datacon.IOHandlers name = some address ∧ datacon.heap address = some handler) :
    ∃ refuses, datacon.leavesDangling deleted delete_or_change = .ok refuses ∧
      (refuses = false → ∀ name ∈ deleted, ∀ address handler,
        datacon.IOHandlers name = some address → datacon.heap address = some handler →
          ∀ subscriber ∈ handler.Subscribers, subscriber.1 ∈ delete_or_change) := by
  let stays (name : String) : Bool :=
    ((datacon.IOHandlers name).bind datacon.heap).any fun handler =>
      handler.Subscribers.any fun subscriber => subscriber.1 ∉ delete_or_change
  have each : ∀ name ∈ deleted.sort,
      datacon.anySubscriberStays delete_or_change name = .ok (stays name) := by
    intro name member
    obtain ⟨address, handler, listed, alive⟩ := registered name ((deleted.mem_sort _).mp member)
    rw [Concentrator.anySubscriberStays, Concentrator.handlerAt_eq listed]
    change (datacon.follow address >>= _) = _
    rw [Concentrator.follow_eq alive]
    change handler.Subscribers.anyM _ = _
    rw [Exceptions.anyM_ok fun subscriber => wired.staysConnected_eq listed alive]
    dsimp only [stays]
    rw [listed, Option.bind_some, alive, Option.any_some]
  refine ⟨_, Exceptions.anyM_ok each, fun none name member address handler
    listed alive subscriber inside => ?_⟩
  have stays_false := List.any_eq_false.mp none name ((deleted.mem_sort _).mpr member)
  dsimp only [stays] at stays_false
  rw [listed, Option.bind_some, alive, Option.any_some, List.any_eq_true] at stays_false
  by_contra absent
  exact stays_false ⟨subscriber, inside, decide_eq_true absent⟩

end Pointers

/-! ## Objects are disabled -/

section Disabling

variable {stale : Nat → String → Prop} {bare : String → Prop}
  {before after datacon : Concentrator} {delete_or_change : Finset String}

/-- Only whether it is enabled, and who has it in demand, may be other. -/
def Handler.SameWiring (before after : Handler) : Prop :=
  after = { before with enabled := after.enabled, demands := after.demands }

theorem Handler.SameWiring.fields {one two : Handler} (same : one.SameWiring two) :
    two.Name = one.Name ∧ two.isConnector = one.isConnector ∧
      two.Subscribers = one.Subscribers ∧ two.SenderConnections = one.SenderConnections := by
  rw [same]
  exact ⟨rfl, rfl, rfl, rfl⟩

/-- **Objects that are enabled or disabled, or come into demand,** stay wired as they are. -/
theorem Wired.rewritten (wired : Wired stale bare before)
    (rewritten : Rewritten (fun _ => Handler.SameWiring) before after) :
    Wired stale bare after := by
  refine wired.inPlace rewritten ?_ ?_ ?_ ?_ ?_
  · exact fun same => ⟨same.fields.1, same.fields.2.1⟩
  · exact fun _ same => same.fields.2.2.1
  · intro name address was now old same
    rw [same.fields.2.2.2]
    exact wired.both old
  · intro name address was now old same
    rw [same.fields.2.2.2]
    exact wired.connected old
  · intro name address was now old same current subscriber pointer
    rw [same.fields.2.2.1, wired.subscribed old current]
    refine (rewritten.connects_iff fun _ sameConnector => ?_).symm
    rw [Connects, sameConnector.fields.2.2.2, Connects]

theorem Sound.rewritten {E : Type} {conf : MainConf E} (sound : Sound conf before)
    (rewritten : Rewritten (fun _ => Handler.SameWiring) before after) : Sound conf after where
  wired := sound.wired.rewritten rewritten
  ports name := by
    rw [rewritten.DataPorts]
    exact sound.ports name
  connectors name := by
    rw [rewritten.DataConnectors]
    exact sound.connectors name

/-- Only whether it is enabled may be other. -/
def Handler.Switched (before after : Handler) : Prop :=
  after = { before with enabled := after.enabled }

theorem Handler.Switched.trans {one two three : Handler} (first : one.Switched two)
    (second : two.Switched three) : one.Switched three := by
  unfold Switched at *
  rw [first] at second
  exact second

/-- What has been disabled so far: ports that are neither deleted nor changed are to be enabled
again. -/
structure Disabled (delete_or_change : Finset String) (before : Concentrator)
    (state : Concentrator × Finset String) : Prop where
  rewritten : Rewritten (fun _ => Handler.Switched) before state.1
  reenable : ∀ name ∈ state.2, name ∉ delete_or_change ∧
    ∃ address port, IsPort before name address port ∧ port.enabled = true
  staysEnabled : ∀ {address handler now}, before.heap address = some handler →
    handler.Name ∉ delete_or_change → handler.enabled = true → state.1.heap address = some now →
      now.enabled = false → handler.Name ∈ state.2
  staysDisabled : ∀ {address handler now}, before.heap address = some handler →
    handler.enabled = false → state.1.heap address = some now → now.enabled = false

theorem Disabled.start (delete_or_change : Finset String) (before : Concentrator) :
    Disabled delete_or_change before (before, ∅) where
  rewritten := @Rewritten.refl (fun _ => Handler.Switched) (fun _ _ => rfl) before
  reenable name member := absurd member (Finset.notMem_empty name)
  staysEnabled alive _ enabled found disabled := by
    obtain rfl := Option.some_inj.mp (alive.symm.trans found)
    cases enabled.symm.trans disabled
  staysDisabled alive disabled found := by
    obtain rfl := Option.some_inj.mp (alive.symm.trans found)
    exact disabled

/-- One more object is disabled. -/
theorem Disabled.disable {state : Concentrator × Finset String}
    (disabled : Disabled delete_or_change before state) {address : Nat} {was : Handler}
    (alive : before.heap address = some was) {reenable : Finset String}
    (kept : state.2 ⊆ reenable) (listed : was.Name ∈ delete_or_change ∨ was.Name ∈ reenable)
    (sound : ∀ name ∈ reenable, name ∉ delete_or_change ∧
      ∃ address port, IsPort before name address port ∧ port.enabled = true) :
    ∃ next, state.1.modify address (fun handler => { handler with enabled := false }) = .ok next ∧
      Disabled delete_or_change before (next, reenable) := by
  obtain ⟨now, found, switched⟩ := disabled.rewritten.alive alive
  have related : now.Switched { now with enabled := false } := rfl
  obtain ⟨next, modified, rewritten, changed⟩ := @Concentrator.modify_spec
    (fun _ => Handler.Switched) state.1 address now
    (fun handler => { handler with enabled := false }) (fun _ _ => rfl) found related
  have others : ∀ {other : Nat}, other ≠ address → next.heap other = state.1.heap other := by
    intro other differs
    rw [Concentrator.modify_eq found] at modified
    rw [← Except.ok.inj modified]
    exact Function.update_of_ne differs _ _
  refine ⟨next, modified, disabled.rewritten.trans (fun _ _ _ _ => .trans) rewritten, sound, ?_, ?_⟩
  · intro other handler last aliveOther notChanged enabled foundOther nowDisabled
    by_cases here : other = address
    · subst here
      obtain rfl := Option.some_inj.mp (alive.symm.trans aliveOther)
      exact listed.resolve_left notChanged
    · rw [others here] at foundOther
      exact kept (disabled.staysEnabled aliveOther notChanged enabled foundOther nowDisabled)
  · intro other handler last aliveOther wasDisabled foundOther
    by_cases here : other = address
    · subst here
      obtain rfl := Option.some_inj.mp (changed.symm.trans foundOther)
      rfl
    · rw [others here] at foundOther
      exact disabled.staysDisabled aliveOther wasDisabled foundOther

/-- **The objects that are deleted or changed are disabled**, and the ports that their connectors
connect. -/
theorem Wired.disable_spec (wired : Wired (fun _ _ => False) (fun _ => False) datacon)
    (registered : ∀ name ∈ delete_or_change, ∃ address handler,
      datacon.IOHandlers name = some address ∧ datacon.heap address = some handler) :
    ∃ state, delete_or_change.sort.foldlM (Concentrator.disableObject delete_or_change)
      (datacon, ∅) = .ok state ∧ Disabled delete_or_change datacon state := by
  refine Exceptions.foldlM_keeps (.start delete_or_change datacon) ?_
  intro name member state disabled
  rw [Finset.mem_sort] at member
  obtain ⟨address, was, listed, alive⟩ := registered name member
  obtain ⟨now, found, switched⟩ := disabled.rewritten.alive alive
  have named : was.Name = name := by
    rcases wired.cases_handler listed alive with ⟨isPort, -⟩ | ⟨isConnector, -⟩
    · exact wired.port_name isPort
    · exact wired.connector_name isConnector
  obtain ⟨next, modified, disabledNext⟩ := disabled.disable alive (Finset.Subset.refl _)
    (.inl (named ▸ member)) disabled.reenable
  rw [Concentrator.disableObject,
    Concentrator.handlerAt_eq (disabled.rewritten.IOHandlers ▸ listed)]
  change ∃ next, (state.1.follow address >>= _) = _ ∧ _
  rw [Concentrator.follow_eq found]
  change ∃ next, (state.1.modify address _ >>= _) = _ ∧ _
  rw [modified]
  have flag : now.isConnector = was.isConnector := by rw [switched]
  have connections : now.SenderConnections = was.SenderConnections := by rw [switched]
  change ∃ last, (if now.isConnector = true then now.SenderConnections.foldlM
    (Concentrator.disableConnected delete_or_change) (next, state.2) else _) = _ ∧ _
  rw [flag, connections]
  rcases wired.cases_handler listed alive with ⟨-, isPort⟩ | ⟨isConnector, isConnectorFlag, -⟩
  · rw [isPort]
    exact ⟨_, rfl, disabledNext⟩
  · rw [if_pos isConnectorFlag]
    refine Exceptions.foldlM_keeps disabledNext ?_
    intro connection inside reached disabledReached
    have portListed := wired.connected isConnector connection inside id
    obtain ⟨port, portAlive, portNamed, -⟩ := wired.port portListed
    obtain ⟨portNow, portFound, portSwitched⟩ := disabledReached.rewritten.alive portAlive
    have nameNow : portNow.Name = port.Name := by rw [portSwitched]
    rw [Concentrator.disableConnected, Concentrator.follow_eq portFound]
    change ∃ next, (if portNow.enabled = true ∧ portNow.Name ∉ delete_or_change then _
      else _) = _ ∧ _
    by_cases goes : portNow.enabled = true ∧ portNow.Name ∉ delete_or_change
    · rw [if_pos goes]
      rw [nameNow] at goes ⊢
      have wasEnabled : port.enabled = true := by
        by_contra notEnabled
        have stays := disabledReached.staysDisabled portAlive (Bool.eq_false_iff.mpr notEnabled)
          portFound
        cases goes.1.symm.trans stays
      obtain ⟨last, modifiedLast, disabledLast⟩ := disabledReached.disable portAlive
        (Finset.subset_insert port.Name reached.2) (.inr (Finset.mem_insert_self _ _))
        fun other => by
          rw [Finset.mem_insert]
          rintro (rfl | before)
          · refine ⟨goes.2, connection.address, port, ?_, wasEnabled⟩
            exact ⟨portNamed ▸ portListed, portAlive⟩
          · exact disabledReached.reenable other before
      rw [modifiedLast]
      exact ⟨_, rfl, disabledLast⟩
    · rw [if_neg goes]
      exact ⟨reached, rfl, disabledReached⟩

end Disabling

/-! ## What a reload has found out -/

section Prepare

variable {E : Type} [Inhabited E] [DecidableEq E] {old : MainConf E} {datacon : Concentrator}

/-- A plan, and what it says of the objects that are registered. -/
structure Planned (old : MainConf E) (plan : Plan E) (changes : Changes) (datacon : Concentrator) :
    Prop where
  valid : plan.new_main_conf.Valid plan.reading
  found : Found old plan.new_main_conf plan.Ports plan.Connectors changes
  changed : plan.changed = changes.changed
  delete_or_change : plan.delete_or_change = changes.deleted ∪ changes.changed
  leavesNone : ∀ name ∈ changes.deleted, ∀ address handler,
    datacon.IOHandlers name = some address → datacon.heap address = some handler →
      ∀ subscriber ∈ handler.Subscribers, subscriber.1 ∈ plan.delete_or_change
  reenable : ∀ name ∈ plan.reenable, name ∉ plan.delete_or_change ∧
    ∃ address, datacon.DataPorts name = some address

omit [Inhabited E] [DecidableEq E] in
theorem Planned.rewritten {plan : Plan E} {changes : Changes} {before after : Concentrator}
    (planned : Planned old plan changes before)
    (rewritten : Rewritten (fun _ => Handler.SameWiring) before after) :
    Planned old plan changes after where
  valid := planned.valid
  found := planned.found
  changed := planned.changed
  delete_or_change := planned.delete_or_change
  leavesNone name member address handler listed alive := by
    obtain ⟨was, found, same⟩ := rewritten.was_alive alive
    rw [same.fields.2.2.1]
    exact planned.leavesNone name member address was (rewritten.IOHandlers ▸ listed) found
  reenable name member := by
    rw [rewritten.DataPorts]
    exact planned.reenable name member

theorem Handler.Switched.sameWiring {before after : Handler} (switched : before.Switched after) :
    before.SameWiring after := by
  unfold Switched at switched
  unfold SameWiring
  rw [switched]

omit [Inhabited E] [DecidableEq E] in
/-- Nothing is created or deleted. -/
theorem Found.same_names {new : MainConf E} {Ports Connectors : List (Object E)}
    {changes : Changes} (found : Found old new Ports Connectors changes)
    (noneCreated : changes.created = ∅) (noneDeleted : changes.deleted = ∅) :
    (∀ name, name ∈ names new.Ports ↔ name ∈ names old.Ports) ∧
      ∀ name, name ∈ names new.Connectors ↔ name ∈ names old.Connectors := by
  have created := found.created
  have deleted := found.deleted
  simp only [noneCreated, noneDeleted, Finset.notMem_empty, false_iff, not_or, not_and,
    not_not] at created deleted
  exact ⟨fun name => ⟨(created name).1, (deleted name).1⟩,
    fun name => ⟨(created name).2, (deleted name).2⟩⟩

omit [Inhabited E] [DecidableEq E] in
theorem planned_of_found {new : MainConf E} {reading : Reading E}
    {Ports Connectors : List (Object E)} {changes : Changes} {before after : Concentrator}
    {reenable : Finset String}
    (valid : new.Valid reading) (found : Found old new Ports Connectors changes)
    (rewritten : Rewritten (fun _ => Handler.SameWiring) before after)
    (leavesNone : ∀ name ∈ changes.deleted, ∀ address handler,
      before.IOHandlers name = some address → before.heap address = some handler →
        ∀ subscriber ∈ handler.Subscribers, subscriber.1 ∈ changes.deleted ∪ changes.changed)
    (ports : ∀ name ∈ reenable, name ∉ changes.deleted ∪ changes.changed ∧
      ∃ address, before.DataPorts name = some address) :
    Planned old ⟨new, reading, Ports, Connectors, changes.changed,
      changes.deleted ∪ changes.changed, reenable⟩ changes after :=
  Planned.rewritten ⟨valid, found, rfl, rfl, leavesNone, ports⟩ rewritten

/-- What comes of a reload up to where it parks the threads. -/
inductive PreparedWell (old : MainConf E) (request : Request E) (datacon : Concentrator) :
    Prepared E → Prop where
  | refused : PreparedWell old request datacon .refused
  | finished (sound : Sound request.new_main_conf datacon) :
    PreparedWell old request datacon .finished
  | waiting {plan : Plan E} {disabled : Concentrator} {changes : Changes}
    (target : plan.new_main_conf = request.new_main_conf)
    (disables : Disabled plan.delete_or_change datacon (disabled, plan.reenable))
    (planned : Planned old plan changes disabled) :
    PreparedWell old request datacon (.waiting plan disabled)

/-- **A reload up to where it parks the threads** follows no dangling pointer. -/
theorem prepare_spec {request : Request E} (sound : Sound old datacon)
    (namedPorts : ∀ object ∈ old.Ports, object.Name ≠ none)
    (namedConnectors : ∀ object ∈ old.Connectors, object.Name ≠ none)
    (valid : request.new_main_conf.Valid request.reading) :
    ∃ prepared, prepare request old datacon = .ok prepared ∧
      PreparedWell old request datacon prepared := by
  unfold prepare
  dsimp only
  by_cases empty : request.new_main_conf.Ports = [] ∧ request.new_main_conf.Connectors = [] ∧
      request.new_main_conf.Plugins = []
  · rw [if_pos empty]
    exact ⟨_, rfl, .refused⟩
  · rw [if_neg empty]
    have found := found_spec valid namedPorts namedConnectors request.newFiles
      request.old_file_confs (findChangedConfs request.newFiles request.old_file_confs old.Ports
        request.new_main_conf.Ports {}).old_file_confs
    dsimp only at found
    generalize findChangedConfs request.newFiles request.old_file_confs old.Ports
      request.new_main_conf.Ports {} = Ports at found ⊢
    generalize findChangedConfs request.newFiles Ports.old_file_confs old.Connectors
      request.new_main_conf.Connectors Ports.changes = Connectors at found ⊢
    generalize findChangedConfs request.newFiles Connectors.old_file_confs old.Plugins
      request.new_main_conf.Plugins {} = Plugins
    generalize Connectors.changes = changes at found ⊢
    split_ifs with unchanged
    · have noneCreated : changes.created = ∅ := Finset.card_eq_zero.mp (by omega)
      have noneDeleted : changes.deleted = ∅ := Finset.card_eq_zero.mp (by omega)
      obtain ⟨samePorts, sameConnectors⟩ := found.same_names noneCreated noneDeleted
      refine ⟨_, rfl, .finished ⟨sound.wired, fun name => ?_, fun name => ?_⟩⟩
      · exact (samePorts name).trans (sound.ports name)
      · exact (sameConnectors name).trans (sound.connectors name)
    · rw [found.withoutMissing sound]
      have registered := found.registered sound
      obtain ⟨refuses, checked, leavesNone⟩ := @Wired.leavesDangling_spec _ _
        (changes.deleted ∪ changes.changed) sound.wired changes.deleted fun name member =>
          registered name (Finset.mem_union_left _ member)
      rw [checked]
      change ∃ prepared, (if refuses = true then _ else _) = Except.ok prepared ∧ _
      cases refuses with
      | true => exact ⟨_, rfl, .refused⟩
      | false =>
          rw [if_neg Bool.false_ne_true]
          obtain ⟨state, disables, disabled⟩ := sound.wired.disable_spec registered
          rw [disables]
          have rewritten := disabled.rewritten.imp fun _ _ => Handler.Switched.sameWiring
          refine ⟨_, rfl, .waiting rfl disabled (planned_of_found valid found rewritten ?_ ?_)⟩
          · exact leavesNone rfl
          · intro name member
            obtain ⟨stays, address, port, isPort, -⟩ := disabled.reenable name member
            exact ⟨stays, address, isPort.listed⟩

end Prepare

end OpenDataCon.Configuration
