import OpenDataCon.Configuration.Handlers

/-!
# Sound wiring

The wiring is sound (`Wired`) when the three maps agree, each connection holds the address of the
port that is registered under its name, and the subscribers of a port are the connectors with a
connection to it. While a configuration is loaded again some of this is left out: connections to
ports that are stale, and the subscribers of ports that are bare.

Ports that are created keep it (`Wired.processPorts`), and so do connectors whose connections are
between ports (`Wired.processConnectors`).
-/

set_option autoImplicit false

namespace OpenDataCon.Configuration

universe u

/-! ## What is registered -/

/-- A port that is registered, with its address. -/
structure IsPort (datacon : Concentrator) (Name : String) (address : Nat) (port : Handler) :
    Prop where
  listed : datacon.DataPorts Name = some address
  alive : datacon.heap address = some port

/-- A connector that is registered, with its address. -/
structure IsConnector (datacon : Concentrator) (Name : String) (address : Nat)
    (connector : Handler) : Prop where
  listed : datacon.DataConnectors Name = some address
  alive : datacon.heap address = some connector

/-- The connector has a connection with this sender. -/
def Connects (connector : Handler) (sender : String) : Prop :=
  ∃ connection ∈ connector.SenderConnections, connection.sender = sender

/-- The pointers lead to the objects that are registered. Connections of a connector to a stale
name are left out, and so are the subscribers of bare ports. -/
structure Wired (stale : Nat → String → Prop) (bare : String → Prop) (datacon : Concentrator) :
    Prop where
  handlers : ∀ Name address, datacon.IOHandlers Name = some address ↔
    datacon.DataPorts Name = some address ∨ datacon.DataConnectors Name = some address
  port : ∀ {Name address}, datacon.DataPorts Name = some address →
    ∃ port, datacon.heap address = some port ∧ port.Name = Name ∧ port.isConnector = false
  connector : ∀ {Name address}, datacon.DataConnectors Name = some address →
    ∃ connector, datacon.heap address = some connector ∧ connector.Name = Name ∧
      connector.isConnector = true ∧ connector.Subscribers = []
  owned : ∀ {address handler}, datacon.heap address = some handler →
    address < datacon.next ∧ datacon.IOHandlers handler.Name = some address
  both : ∀ {Name address connector}, IsConnector datacon Name address connector →
    ∀ connection ∈ connector.SenderConnections, ∃ other ∈ connector.SenderConnections,
      other.sender = connection.receiver ∧ other.receiver = connection.sender
  connected : ∀ {Name address connector}, IsConnector datacon Name address connector →
    ∀ connection ∈ connector.SenderConnections, ¬stale address connection.receiver →
      datacon.DataPorts connection.receiver = some connection.address
  subscribed : ∀ {Name address port}, IsPort datacon Name address port → ¬bare Name →
    ∀ subscriber pointer, (subscriber, pointer) ∈ port.Subscribers ↔
      ∃ connector, IsConnector datacon subscriber pointer connector ∧ Connects connector Name

namespace Wired

variable {stale : Nat → String → Prop} {bare : String → Prop} {datacon : Concentrator}
  {Name : String} {address : Nat}

theorem lt_next_of_port (wired : Wired stale bare datacon)
    (listed : datacon.DataPorts Name = some address) : address < datacon.next := by
  obtain ⟨port, alive, -, -⟩ := wired.port listed
  exact (wired.owned alive).1

theorem lt_next_of_connector (wired : Wired stale bare datacon)
    (listed : datacon.DataConnectors Name = some address) : address < datacon.next := by
  obtain ⟨connector, alive, -, -, -⟩ := wired.connector listed
  exact (wired.owned alive).1

theorem ne_of_port_of_connector (wired : Wired stale bare datacon) {other : String}
    {otherAddress : Nat} (listed : datacon.DataPorts Name = some address)
    (otherListed : datacon.DataConnectors other = some otherAddress) : address ≠ otherAddress := by
  rintro rfl
  obtain ⟨port, alive, -, isPort⟩ := wired.port listed
  obtain ⟨connector, otherAlive, -, isConnector, -⟩ := wired.connector otherListed
  obtain rfl := Option.some_inj.mp (alive.symm.trans otherAlive)
  cases isPort.symm.trans isConnector

theorem port_name (wired : Wired stale bare datacon) {port : Handler}
    (registered : IsPort datacon Name address port) : port.Name = Name := by
  obtain ⟨other, alive, named, -⟩ := wired.port registered.listed
  obtain rfl := Option.some_inj.mp (alive.symm.trans registered.alive)
  exact named

theorem connector_name (wired : Wired stale bare datacon) {connector : Handler}
    (registered : IsConnector datacon Name address connector) : connector.Name = Name := by
  obtain ⟨other, alive, named, -, -⟩ := wired.connector registered.listed
  obtain rfl := Option.some_inj.mp (alive.symm.trans registered.alive)
  exact named

/-- No name is that of a port and of a connector. -/
theorem ports_disjoint (wired : Wired stale bare datacon)
    (listed : datacon.DataPorts Name = some address) : datacon.DataConnectors Name = none := by
  cases other : datacon.DataConnectors Name with
  | none => rfl
  | some otherAddress =>
      have one := (wired.handlers Name address).mpr (.inl listed)
      have two := (wired.handlers Name otherAddress).mpr (.inr other)
      obtain rfl := Option.some_inj.mp (one.symm.trans two)
      exact absurd rfl (wired.ne_of_port_of_connector listed other)

/-- A name that nothing is registered under. -/
theorem handler_eq_none_iff (wired : Wired stale bare datacon) :
    datacon.IOHandlers Name = none ↔
      datacon.DataPorts Name = none ∧ datacon.DataConnectors Name = none := by
  simp only [Option.eq_none_iff_forall_not_mem, Option.mem_def, wired.handlers, not_or, forall_and]

theorem no_handler (wired : Wired stale bare datacon) (fresh : datacon.IOHandlers Name = none) :
    datacon.DataPorts Name = none ∧ datacon.DataConnectors Name = none :=
  wired.handler_eq_none_iff.mp fresh

end Wired

section InPlace

variable {rel : Nat → Handler → Handler → Prop} {stale stale' : Nat → String → Prop}
  {bare bare' : String → Prop} {before after : Concentrator}

theorem Rewritten.isPort (rewritten : Rewritten rel before after) {name : String} {address : Nat}
    {now : Handler} (registered : IsPort after name address now) :
    ∃ was, IsPort before name address was ∧ rel address was now := by
  obtain ⟨was, alive, related⟩ := rewritten.was_alive registered.alive
  exact ⟨was, ⟨rewritten.DataPorts ▸ registered.listed, alive⟩, related⟩

theorem Rewritten.isConnector (rewritten : Rewritten rel before after) {name : String}
    {address : Nat} {now : Handler} (registered : IsConnector after name address now) :
    ∃ was, IsConnector before name address was ∧ rel address was now := by
  obtain ⟨was, alive, related⟩ := rewritten.was_alive registered.alive
  exact ⟨was, ⟨rewritten.DataConnectors ▸ registered.listed, alive⟩, related⟩

theorem Rewritten.connects_iff (rewritten : Rewritten rel before after) {name sender : String}
    {address : Nat} (senders : ∀ {was now}, IsConnector before name address was →
      rel address was now → (Connects now sender ↔ Connects was sender)) :
    (∃ now, IsConnector after name address now ∧ Connects now sender) ↔
      ∃ was, IsConnector before name address was ∧ Connects was sender := by
  constructor
  · rintro ⟨now, registered, connects⟩
    obtain ⟨was, old, related⟩ := rewritten.isConnector registered
    exact ⟨was, old, (senders old related).mp connects⟩
  · rintro ⟨was, old, connects⟩
    obtain ⟨now, found, related⟩ := rewritten.alive old.alive
    exact ⟨now, ⟨rewritten.DataConnectors ▸ old.listed, found⟩, (senders old related).mpr connects⟩

/-- **Objects that change in their places** are registered as they were, so that only their
connections and subscribers are to be looked at. -/
theorem Wired.inPlace (wired : Wired stale bare before) (rewritten : Rewritten rel before after)
    (kept : ∀ {address was now}, rel address was now →
      now.Name = was.Name ∧ now.isConnector = was.isConnector)
    (none : ∀ {name address was now}, IsConnector before name address was → rel address was now →
      now.Subscribers = was.Subscribers)
    (both : ∀ {name address was now}, IsConnector before name address was → rel address was now →
      ∀ connection ∈ now.SenderConnections, ∃ other ∈ now.SenderConnections,
        other.sender = connection.receiver ∧ other.receiver = connection.sender)
    (connected : ∀ {name address was now}, IsConnector before name address was →
      rel address was now → ∀ connection ∈ now.SenderConnections,
        ¬stale' address connection.receiver →
          before.DataPorts connection.receiver = some connection.address)
    (subscribed : ∀ {name address was now}, IsPort before name address was →
      rel address was now → ¬bare' name → ∀ subscriber pointer,
        (subscriber, pointer) ∈ now.Subscribers ↔
          ∃ connector, IsConnector after subscriber pointer connector ∧ Connects connector name) :
    Wired stale' bare' after where
  handlers := by
    rw [rewritten.IOHandlers, rewritten.DataPorts, rewritten.DataConnectors]
    exact wired.handlers
  port listed := by
    rw [rewritten.DataPorts] at listed
    obtain ⟨port, alive, named, flag⟩ := wired.port listed
    obtain ⟨now, found, related⟩ := rewritten.alive alive
    exact ⟨now, found, (kept related).1.trans named, (kept related).2.trans flag⟩
  connector listed := by
    rw [rewritten.DataConnectors] at listed
    obtain ⟨connector, alive, named, flag, empty⟩ := wired.connector listed
    obtain ⟨now, found, related⟩ := rewritten.alive alive
    exact ⟨now, found, (kept related).1.trans named, (kept related).2.trans flag,
      (none ⟨listed, alive⟩ related).trans empty⟩
  owned alive := by
    obtain ⟨was, found, related⟩ := rewritten.was_alive alive
    rw [rewritten.next, rewritten.IOHandlers, (kept related).1]
    exact wired.owned found
  both registered := by
    obtain ⟨was, old, related⟩ := rewritten.isConnector registered
    exact both old related
  connected registered := by
    obtain ⟨was, old, related⟩ := rewritten.isConnector registered
    rw [rewritten.DataPorts]
    exact connected old related
  subscribed registered := by
    obtain ⟨was, old, related⟩ := rewritten.isPort registered
    exact subscribed old related

end InPlace

namespace Wired

variable {stale : Nat → String → Prop} {bare : String → Prop} {datacon : Concentrator}
  {Name : String} {address : Nat}

/-- The addresses that are in use are not those of an object that is created. -/
theorem heap_create (Name : String) (isConnector : Bool) (used : address < datacon.next) :
    (datacon.create Name isConnector).heap address = datacon.heap address :=
  Function.update_of_ne used.ne _ _

/-- **An object that is created** is wired, if it is no port whose subscribers are missing. -/
theorem created (wired : Wired stale bare datacon) (fresh : datacon.IOHandlers Name = none)
    {isConnector : Bool} {after : Concentrator}
    (heap : after.heap = (datacon.create Name isConnector).heap)
    (next : after.next = datacon.next + 1) (here : after.IOHandlers Name = some datacon.next)
    (kind : isConnector = false ∧ after.DataPorts Name = some datacon.next ∧
        after.DataConnectors Name = none ∨
      isConnector = true ∧ after.DataPorts Name = none ∧
        after.DataConnectors Name = some datacon.next)
    (others : ∀ {other}, other ≠ Name → after.IOHandlers other = datacon.IOHandlers other ∧
      after.DataPorts other = datacon.DataPorts other ∧
        after.DataConnectors other = datacon.DataConnectors other)
    (lonely : isConnector = false → ¬bare Name → ∀ {other pointer connector},
      IsConnector datacon other pointer connector → ¬Connects connector Name) :
    Wired stale bare after := by
  obtain ⟨noPort, noConnector⟩ := wired.no_handler fresh
  have created : after.heap datacon.next = some { Name, isConnector } := by
    rw [heap]
    exact Function.update_self _ _ _
  have kept : ∀ {address}, address < datacon.next →
      after.heap address = datacon.heap address := by
    rw [heap]
    exact heap_create Name isConnector
  have ports : ∀ {other pointer}, after.DataPorts other = some pointer →
      other = Name ∧ pointer = datacon.next ∧ isConnector = false ∨
        datacon.DataPorts other = some pointer := by
    intro other pointer listed
    by_cases same : other = Name
    · subst same
      rcases kind with ⟨isPort, portHere, -⟩ | ⟨-, none, -⟩
      · exact .inl ⟨rfl, Option.some_inj.mp (listed.symm.trans portHere), isPort⟩
      · cases none.symm.trans listed
    · exact .inr ((others same).2.1 ▸ listed)
  have connectors : ∀ {other pointer}, after.DataConnectors other = some pointer →
      other = Name ∧ pointer = datacon.next ∧ isConnector = true ∨
        datacon.DataConnectors other = some pointer := by
    intro other pointer listed
    by_cases same : other = Name
    · subst same
      rcases kind with ⟨-, -, none⟩ | ⟨isTrue, -, connectorHere⟩
      · cases none.symm.trans listed
      · exact .inl ⟨rfl, Option.some_inj.mp (listed.symm.trans connectorHere), isTrue⟩
    · exact .inr ((others same).2.2 ▸ listed)
  have old : ∀ {other pointer connector}, IsConnector after other pointer connector →
      connector = { Name, isConnector } ∨ IsConnector datacon other pointer connector := by
    intro other pointer connector registered
    rcases connectors registered.listed with ⟨-, rfl, -⟩ | listed
    · exact .inl (Option.some_inj.mp (registered.alive.symm.trans created))
    · exact .inr ⟨listed, (kept (wired.lt_next_of_connector listed)).symm.trans registered.alive⟩
  refine ⟨fun other address => ?_, ?_, ?_, ?_, ?_, ?_, ?_⟩
  · by_cases same : other = Name
    · subst same
      rcases kind with ⟨-, portHere, none⟩ | ⟨-, none, connectorHere⟩
      · simp [here, portHere, none]
      · simp [here, connectorHere, none]
    · rw [(others same).1, (others same).2.1, (others same).2.2]
      exact wired.handlers other address
  · intro other address listed
    rcases ports listed with ⟨rfl, rfl, isPort⟩ | before
    · exact ⟨_, created, rfl, isPort⟩
    · rw [kept (wired.lt_next_of_port before)]
      exact wired.port before
  · intro other address listed
    rcases connectors listed with ⟨rfl, rfl, isTrue⟩ | before
    · exact ⟨_, created, rfl, isTrue, rfl⟩
    · rw [kept (wired.lt_next_of_connector before)]
      exact wired.connector before
  · intro address handler alive
    by_cases isNew : address = datacon.next
    · subst isNew
      obtain rfl := Option.some_inj.mp (created.symm.trans alive)
      exact ⟨next ▸ Nat.lt_succ_self _, here⟩
    · rw [heap] at alive
      obtain ⟨used, named⟩ := wired.owned ((Function.update_of_ne isNew _ _).symm.trans alive)
      refine ⟨next ▸ used.trans (Nat.lt_succ_self _), ?_⟩
      rw [(others _).1]
      · exact named
      · intro same
        rw [same, fresh] at named
        cases named
  · intro other address connector registered connection member
    rcases old registered with rfl | before
    · exact absurd member List.not_mem_nil
    · exact wired.both before connection member
  · intro other address connector registered connection member current
    rcases old registered with rfl | before
    · exact absurd member List.not_mem_nil
    · have listed := wired.connected before connection member current
      rw [(others _).2.1]
      · exact listed
      · intro same
        rw [same, noPort] at listed
        cases listed
  · intro other address port registered current subscriber pointer
    have sameConnectors : (∃ connector, IsConnector after subscriber pointer connector ∧
        Connects connector other) ↔ ∃ connector, IsConnector datacon subscriber pointer connector ∧
          Connects connector other := by
      refine exists_congr fun connector => and_congr_left fun connects => ⟨fun isNew => ?_, ?_⟩
      · refine (old isNew).resolve_left ?_
        rintro rfl
        obtain ⟨connection, member, -⟩ := connects
        exact List.not_mem_nil member
      · intro before
        refine ⟨?_, (kept (wired.lt_next_of_connector before.listed)).trans before.alive⟩
        rw [(others _).2.2]
        · exact before.listed
        · rintro rfl
          cases noConnector.symm.trans before.listed
    rw [sameConnectors]
    rcases ports registered.listed with ⟨rfl, rfl, isPort⟩ | listed
    · obtain rfl := Option.some_inj.mp (created.symm.trans registered.alive)
      refine iff_of_false List.not_mem_nil ?_
      rintro ⟨connector, before, connects⟩
      exact lonely isPort current before connects
    · refine wired.subscribed ⟨listed, ?_⟩ current subscriber pointer
      exact (kept (wired.lt_next_of_port listed)).symm.trans registered.alive

/-- **A port that is created** is wired, if no connector has a connection with its name or its
subscribers are yet to come. -/
theorem addPort (wired : Wired stale bare datacon) (fresh : datacon.IOHandlers Name = none)
    (lonely : ¬bare Name → ∀ {other pointer connector},
      IsConnector datacon other pointer connector → ¬Connects connector Name) :
    Wired stale bare (datacon.addPort Name) :=
  wired.created fresh rfl rfl (Function.update_self _ _ _)
    (.inl ⟨rfl, Function.update_self _ _ _, (wired.no_handler fresh).2⟩)
    (fun differs =>
      ⟨Function.update_of_ne differs _ _, Function.update_of_ne differs _ _, rfl⟩) fun _ => lonely

/-- A connector that is created, without connections yet. -/
theorem createConnector (wired : Wired stale bare datacon)
    (fresh : datacon.IOHandlers Name = none) :
    Wired stale bare (Concentrator.listConnector Name datacon.next (datacon.create Name true)) :=
  wired.created fresh rfl rfl (Function.update_self _ _ _)
    (.inr ⟨rfl, (wired.no_handler fresh).1, Function.update_self _ _ _⟩)
    (fun differs =>
      ⟨Function.update_of_ne differs _ _, rfl, Function.update_of_ne differs _ _⟩)
    fun isPort => by cases isPort

/-- **A connection between two ports**, in the files of a connector. -/
theorem connect (wired : Wired stale (fun _ => False) datacon) {this address1 address2 : Nat}
    {connector : Handler} {connection : String × String}
    (registered : IsConnector datacon Name this connector)
    (port1 : datacon.DataPorts connection.1 = some address1)
    (port2 : datacon.DataPorts connection.2 = some address2) :
    Wired stale (fun _ => False)
      (datacon.mapHeap (Handler.connect Name this address1 address2 connection)) := by
  have apart : ∀ {other address}, datacon.DataConnectors other = some address →
      ¬(address = address1 ∨ address = address2) := by
    rintro other address listed (rfl | rfl)
    · exact wired.ne_of_port_of_connector port1 listed rfl
    · exact wired.ne_of_port_of_connector port2 listed rfl
  have connects : Rewritten (fun address was now => now =
      was.connect Name this address1 address2 connection address) datacon _ :=
    .map fun _ => rfl
  generalize datacon.mapHeap _ = after at connects ⊢
  have isThis : ∀ {other was}, IsConnector datacon other this was →
      other = Name ∧ was = connector := by
    intro other was old
    obtain rfl := Option.some_inj.mp (old.alive.symm.trans registered.alive)
    exact ⟨(wired.connector_name old).symm.trans (wired.connector_name registered), rfl⟩
  have connectsNow : ∀ {other pointer was sender}, IsConnector datacon other pointer was →
      (Connects (was.connect Name this address1 address2 connection pointer) sender ↔
        Connects was sender ∨
          pointer = this ∧ (sender = connection.1 ∨ sender = connection.2)) := by
    intro other pointer was sender old
    by_cases here : pointer = this
    · subst here
      rw [Handler.connect_this]
      simp [Connects, Handler.insertConnections, or_and_right, exists_or, eq_comm]
    · rw [Handler.connect_other here (apart old.listed)]
      simp [here]
  refine wired.inPlace connects ?_ ?_ ?_ ?_ ?_
  · rintro address was now rfl
    exact Handler.connect_kept
  · rintro other address was now old rfl
    by_cases here : address = this
    · subst here
      rw [Handler.connect_this]
      rfl
    · rw [Handler.connect_other here (apart old.listed)]
  · rintro other address was now old rfl entry member
    by_cases here : address = this
    · subst here
      rw [Handler.connect_this] at member ⊢
      rcases List.mem_append.mp member with before | added
      · obtain ⟨back, backMember, same⟩ := wired.both old entry before
        exact ⟨back, List.mem_append_left _ backMember, same⟩
      · simp only [List.mem_cons, List.not_mem_nil, or_false] at added
        rcases added with rfl | rfl
        · exact ⟨_, List.mem_append_right _ (.tail _ (.head _)), rfl, rfl⟩
        · exact ⟨_, List.mem_append_right _ (.head _), rfl, rfl⟩
    · rw [Handler.connect_other here (apart old.listed)] at member ⊢
      exact wired.both old entry member
  · rintro other address was now old rfl entry member current
    by_cases here : address = this
    · subst here
      rw [Handler.connect_this] at member
      rcases List.mem_append.mp member with before | added
      · exact wired.connected old entry before current
      · simp only [List.mem_cons, List.not_mem_nil, or_false] at added
        rcases added with rfl | rfl
        · exact port2
        · exact port1
    · rw [Handler.connect_other here (apart old.listed)] at member
      exact wired.connected old entry member current
  · rintro other address was now old rfl current subscriber pointer
    have ends : address = address1 ∨ address = address2 ↔
        other = connection.1 ∨ other = connection.2 := by
      refine or_congr ⟨?_, ?_⟩ ⟨?_, ?_⟩
      · rintro rfl
        exact (wired.port_name old).symm.trans (wired.port_name ⟨port1, old.alive⟩)
      · rintro rfl
        exact Option.some_inj.mp (old.listed.symm.trans port1)
      · rintro rfl
        exact (wired.port_name old).symm.trans (wired.port_name ⟨port2, old.alive⟩)
      · rintro rfl
        exact Option.some_inj.mp (old.listed.symm.trans port2)
    have afterwards : (∃ now, IsConnector after subscriber pointer now ∧ Connects now other) ↔
        (subscriber, pointer) ∈ was.Subscribers ∨
          subscriber = Name ∧ pointer = this ∧ (other = connection.1 ∨ other = connection.2) := by
      rw [wired.subscribed old current]
      constructor
      · rintro ⟨now, registeredNow, isSender⟩
        obtain ⟨connector', oldConnector, rfl⟩ := connects.isConnector registeredNow
        refine ((connectsNow oldConnector).mp isSender).imp ?_ ?_
        · exact fun connected => ⟨connector', oldConnector, connected⟩
        · rintro ⟨rfl, isEnd⟩
          exact ⟨(isThis oldConnector).1, rfl, isEnd⟩
      · have new : ∀ {other pointer was}, IsConnector datacon other pointer was →
            IsConnector after other pointer
              (was.connect Name this address1 address2 connection pointer) := by
          intro other pointer was old
          obtain ⟨now, found, rfl⟩ := connects.alive old.alive
          exact ⟨connects.DataConnectors ▸ old.listed, found⟩
        rintro (⟨connector', oldConnector, connected⟩ | ⟨rfl, rfl, isEnd⟩)
        · exact ⟨_, new oldConnector, (connectsNow oldConnector).mpr (.inl connected)⟩
        · exact ⟨_, new registered, (connectsNow registered).mpr (.inr ⟨rfl, isEnd⟩)⟩
    rw [afterwards]
    have other_this : address ≠ this := wired.ne_of_port_of_connector old.listed registered.listed
    by_cases isEnd : address = address1 ∨ address = address2
    · rw [Handler.connect_port other_this isEnd, Handler.mem_subscribe,
        iff_true_intro (ends.mp isEnd), and_true]
      constructor
      · exact Or.rec .inr fun both => .inl both.2
      · rintro (inside | here)
        · by_cases same : subscriber = Name
          · subst same
            obtain ⟨connector', oldConnector, -⟩ :=
              (wired.subscribed old current subscriber pointer).mp inside
            exact .inl ⟨rfl,
              Option.some_inj.mp (oldConnector.listed.symm.trans registered.listed)⟩
          · exact .inr ⟨same, inside⟩
        · exact .inl here
    · rw [Handler.connect_other other_this isEnd, iff_false_intro (ends.not.mp isEnd)]
      simp

end Wired

/-! ## A connector with its connections -/

section AddConnector

variable {datacon : Concentrator} {Name : String} {connections : List (String × String)}

/-- Only the subscribers are others. -/
def Handler.Resubscribed (before after : Handler) : Prop :=
  after = { before with Subscribers := after.Subscribers }

theorem Handler.Resubscribed.trans {one two three : Handler} (first : one.Resubscribed two)
    (second : two.Resubscribed three) : one.Resubscribed three := by
  unfold Resubscribed at *
  rw [first] at second
  exact second

namespace Concentrator

theorem modify_listConnector (address listed : Nat) (change : Handler → Handler) :
    (listConnector Name listed datacon).modify address change =
      (datacon.modify address change).map (listConnector Name listed) := by
  unfold modify listConnector
  dsimp only
  cases datacon.heap address with
  | none => rfl
  | some handler => rfl

theorem addConnection_listConnector (this listed : Nat) (owner : String)
    (connection : String × String) :
    addConnection owner this (listConnector Name listed datacon) connection =
      (addConnection owner this datacon connection).map (listConnector Name listed) := by
  have handlers : (listConnector Name listed datacon).IOHandlers = datacon.IOHandlers := rfl
  unfold addConnection
  rw [handlers]
  cases datacon.IOHandlers connection.1 with
  | none => rfl
  | some address1 =>
      cases datacon.IOHandlers connection.2 with
      | none => rfl
      | some address2 =>
          dsimp only
          rw [modify_listConnector]
          cases datacon.modify this _ with
          | error fault => rfl
          | ok inserted =>
              change ((listConnector Name listed inserted).modify _ _ >>= _) = _
              rw [modify_listConnector]
              change _ = Except.map _ (inserted.modify _ _ >>= _)
              cases inserted.modify address1 _ with
              | error fault => rfl
              | ok subscribed => exact modify_listConnector _ _ _

/-- That a connector is listed once it is constructed makes no difference to its connections. -/
theorem addConnector_eq : datacon.addConnector Name connections =
    connections.foldlM (addConnection Name datacon.next)
      (listConnector Name datacon.next (datacon.create Name true)) := by
  rw [addConnector]
  generalize datacon.create Name true = constructed
  generalize datacon.next = this
  induction connections generalizing constructed with
  | nil => rfl
  | cons connection rest ih =>
      rw [List.foldlM_cons, List.foldlM_cons, addConnection_listConnector]
      cases addConnection Name this constructed connection with
      | error fault => rfl
      | ok next => exact ih next

end Concentrator

/-- What the construction of a connector leaves as it was: of the other objects, only the
subscribers may be others. -/
structure ConnectorsAdded (added : List String) (before after : Concentrator) : Prop where
  next : before.next ≤ after.next
  heap : ∀ address < before.next,
    Option.Rel Handler.Resubscribed (before.heap address) (after.heap address)
  DataPorts : after.DataPorts = before.DataPorts
  old : ∀ other ∉ added, after.DataConnectors other = before.DataConnectors other
  new : ∀ other ∈ added, ∃ address, before.next ≤ address ∧ address < after.next ∧
    after.DataConnectors other = some address

/-- What the connections of the connector at one address make of an object: of the others, only
the subscribers may be others. -/
def Handler.Connected (this address : Nat) (before after : Handler) : Prop :=
  address ≠ this → before.Resubscribed after

/-- A connection whose ends are no connectors. -/
theorem Wired.addConnection {stale : Nat → String → Prop} {this : Nat}
    {connection : String × String} (wired : Wired stale (fun _ => False) datacon)
    (connectorHere : datacon.DataConnectors Name = some this)
    (portsOnly : ∀ port, port = connection.1 ∨ port = connection.2 →
      datacon.DataConnectors port = none) :
    ∃ after, Concentrator.addConnection Name this datacon connection = .ok after ∧
      Wired stale (fun _ => False) after ∧ Rewritten (Handler.Connected this) datacon after := by
  have isPort : ∀ port, port = connection.1 ∨ port = connection.2 → ∀ address,
      datacon.IOHandlers port = some address → datacon.DataPorts port = some address := by
    intro port isEnd address found
    refine ((wired.handlers port address).mp found).resolve_right fun connector => ?_
    cases (portsOnly port isEnd).symm.trans connector
  have unchanged : Rewritten (Handler.Connected this) datacon datacon :=
    .refl (fun _ _ _ => rfl) datacon
  cases found1 : datacon.IOHandlers connection.1 with
  | none =>
      refine ⟨datacon, ?_, wired, unchanged⟩
      rw [Concentrator.addConnection, found1]
  | some address1 =>
      cases found2 : datacon.IOHandlers connection.2 with
      | none =>
          refine ⟨datacon, ?_, wired, unchanged⟩
          rw [Concentrator.addConnection, found1, found2]
      | some address2 =>
          have port1 := isPort _ (.inl rfl) _ found1
          have port2 := isPort _ (.inr rfl) _ found2
          obtain ⟨connector, alive, -, -, -⟩ := wired.connector connectorHere
          obtain ⟨one, alive1, -, -⟩ := wired.port port1
          obtain ⟨two, alive2, -, -⟩ := wired.port port2
          refine ⟨_, Concentrator.addConnection_eq found1 found2 alive alive1 alive2
            (wired.ne_of_port_of_connector port1 connectorHere)
            (wired.ne_of_port_of_connector port2 connectorHere),
            wired.connect ⟨connectorHere, alive⟩ port1 port2, .map fun {address _} _ other => ?_⟩
          by_cases isEnd : address = address1 ∨ address = address2
          · rw [Handler.connect_port other isEnd]
            rfl
          · rw [Handler.connect_other other isEnd]
            rfl

/-- **A connector that is created**, with the connections of its files to ports, is wired. -/
theorem Wired.addConnector {stale : Nat → String → Prop}
    (wired : Wired stale (fun _ => False) datacon) (fresh : datacon.IOHandlers Name = none)
    (portsOnly : ∀ connection ∈ connections, ∀ port, port = connection.1 ∨ port = connection.2 →
      port ≠ Name ∧ datacon.DataConnectors port = none) :
    ∃ after, datacon.addConnector Name connections = .ok after ∧
      Wired stale (fun _ => False) after ∧ ConnectorsAdded [Name] datacon after := by
  rw [Concentrator.addConnector_eq]
  generalize made :
    Concentrator.listConnector Name datacon.next (datacon.create Name true) = listed
  have listedHere : listed.DataConnectors Name = some datacon.next := by
    rw [← made]
    exact Function.update_self _ _ _
  have listedNext : listed.next = datacon.next + 1 := by
    rw [← made]
    rfl
  have unlisted : ∀ other, other ≠ Name →
      listed.DataConnectors other = datacon.DataConnectors other := by
    rw [← made]
    exact fun other differs => Function.update_of_ne differs _ _
  have start : Wired stale (fun _ => False) listed ∧
      Rewritten (Handler.Connected datacon.next) listed listed :=
    ⟨made ▸ wired.createConnector fresh, .refl (fun _ _ _ => rfl) listed⟩
  have loops : ∃ after, connections.foldlM (Concentrator.addConnection Name datacon.next) listed =
      .ok after ∧ Wired stale (fun _ => False) after ∧
        Rewritten (Handler.Connected datacon.next) listed after := by
    refine Exceptions.foldlM_keeps start ?_
    rintro connection member reached ⟨wiredReached, added⟩
    have connectorHere := (congrFun added.DataConnectors Name).trans listedHere
    obtain ⟨next, steps, wiredNext, addedNext⟩ := wiredReached.addConnection connectorHere
      fun port isEnd => by
        obtain ⟨differs, absent⟩ := portsOnly connection member port isEnd
        rw [added.DataConnectors, unlisted port differs, absent]
    exact ⟨next, steps, wiredNext,
      added.trans (fun _ _ _ _ one two other => (one other).trans (two other)) addedNext⟩
  obtain ⟨after, result, wiredAfter, added⟩ := loops
  refine ⟨after, result, wiredAfter, ?_, fun address used => ?_, ?_, fun other absent => ?_, ?_⟩
  · rw [added.next, listedNext]
    exact Nat.le_succ _
  · have same : listed.heap address = datacon.heap address := by
      rw [← made]
      exact Function.update_of_ne used.ne _ _
    rw [← same]
    exact optionRel_imp (fun _ _ resubscribed => resubscribed used.ne) (added.heap address)
  · rw [added.DataPorts, ← made]
    rfl
  · rw [added.DataConnectors]
    exact unlisted other (List.ne_of_not_mem_cons absent)
  · intro other member
    obtain rfl := List.mem_singleton.mp member
    refine ⟨datacon.next, le_rfl, ?_, added.DataConnectors ▸ listedHere⟩
    rw [added.next, listedNext]
    exact Nat.lt_succ_self _

end AddConnector

/-! ## The entries of a configuration -/

section Process

variable {E : Type u} {reading : Reading E} {stale : Nat → String → Prop} {bare : String → Prop}
  {datacon before between after : Concentrator} {Name : String}

/-- What the construction of ports leaves as it was, and the ports that are new. -/
structure PortsAdded (added : List String) (before after : Concentrator) : Prop where
  next : before.next ≤ after.next
  heap : ∀ address < before.next, after.heap address = before.heap address
  DataConnectors : after.DataConnectors = before.DataConnectors
  old : ∀ other ∉ added, after.DataPorts other = before.DataPorts other
  new : ∀ other ∈ added, ∃ address, before.next ≤ address ∧ address < after.next ∧
    after.DataPorts other = some address ∧
      after.heap address = some { Name := other, isConnector := false }

theorem PortsAdded.trans {first second : List String} (one : PortsAdded first before between)
    (two : PortsAdded second between after) (apart : ∀ other ∈ first, other ∉ second) :
    PortsAdded (first ++ second) before after where
  next := one.next.trans two.next
  heap address used := (two.heap address (used.trans_le one.next)).trans (one.heap address used)
  DataConnectors := two.DataConnectors.trans one.DataConnectors
  old other absent := by
    rw [two.old other fun member => absent (List.mem_append_right first member),
      one.old other fun member => absent (List.mem_append_left second member)]
  new other member := by
    rcases List.mem_append.mp member with inFirst | inSecond
    · obtain ⟨address, low, high, listed, alive⟩ := one.new other inFirst
      refine ⟨address, low, high.trans_le two.next, ?_, ?_⟩
      · rw [two.old other (apart other inFirst), listed]
      · rw [two.heap address high, alive]
    · obtain ⟨address, low, rest⟩ := two.new other inSecond
      exact ⟨address, one.next.trans low, rest⟩

theorem ConnectorsAdded.trans {first second : List String}
    (one : ConnectorsAdded first before between) (two : ConnectorsAdded second between after)
    (apart : ∀ other ∈ first, other ∉ second) :
    ConnectorsAdded (first ++ second) before after where
  next := one.next.trans two.next
  heap address used := optionRel_trans .trans (one.heap address used)
    (two.heap address (used.trans_le one.next))
  DataPorts := two.DataPorts.trans one.DataPorts
  old other absent := by
    rw [two.old other fun member => absent (List.mem_append_right first member),
      one.old other fun member => absent (List.mem_append_left second member)]
  new other member := by
    rcases List.mem_append.mp member with inFirst | inSecond
    · obtain ⟨address, low, high, listed⟩ := one.new other inFirst
      refine ⟨address, low, high.trans_le two.next, ?_⟩
      rw [two.old other (apart other inFirst), listed]
    · obtain ⟨address, low, rest⟩ := two.new other inSecond
      exact ⟨address, one.next.trans low, rest⟩

theorem Concentrator.addPort_added (datacon : Concentrator) (Name : String) :
    PortsAdded [Name] datacon (datacon.addPort Name) where
  next := Nat.le_succ _
  heap address used := Function.update_of_ne used.ne _ _
  DataConnectors := rfl
  old other absent := Function.update_of_ne (List.ne_of_not_mem_cons absent) _ _
  new other member := by
    obtain rfl := List.mem_singleton.mp member
    exact ⟨datacon.next, le_rfl, Nat.lt_succ_self _, Function.update_self _ _ _,
      Function.update_self _ _ _⟩

/-- The connectors are as they were. -/
theorem PortsAdded.isConnector_iff {added : List String} (ports : PortsAdded added before after)
    (wired : Wired stale bare before) {address : Nat} {connector : Handler} :
    IsConnector after Name address connector ↔ IsConnector before Name address connector := by
  have alive : before.DataConnectors Name = some address →
      after.heap address = before.heap address := fun listed =>
    ports.heap address (wired.lt_next_of_connector listed)
  constructor
  · intro registered
    have listed := ports.DataConnectors ▸ registered.listed
    exact ⟨listed, (alive listed).symm.trans registered.alive⟩
  · intro registered
    exact ⟨ports.DataConnectors ▸ registered.listed,
      (alive registered.listed).trans registered.alive⟩

/-- **Ports that are created for the entries of a configuration.** -/
theorem Wired.processPorts {Ports : List (Object E)} (wired : Wired stale bare datacon)
    (named : ∀ object ∈ Ports, object.Name ≠ none)
    (complete : ∀ object ∈ Ports, reading.portComplete object = true)
    (distinct : (names Ports).Nodup)
    (fresh : ∀ other ∈ names Ports, datacon.IOHandlers other = none)
    (lonely : ∀ other ∈ names Ports, ¬bare other → ∀ {subscriber pointer connector},
      IsConnector datacon subscriber pointer connector → ¬Connects connector other) :
    Wired stale bare (datacon.processPorts reading Ports) ∧
      PortsAdded (names Ports) datacon (datacon.processPorts reading Ports) := by
  induction Ports generalizing datacon with
  | nil => exact ⟨wired, ⟨le_rfl, fun _ _ => rfl, rfl, fun _ _ => rfl, fun other member =>
      absurd member List.not_mem_nil⟩⟩
  | cons object rest ih =>
      obtain ⟨Name, named_eq⟩ := Option.ne_none_iff_exists'.mp (named object List.mem_cons_self)
      have names_eq : names (object :: rest) = Name :: names rest :=
        List.filterMap_cons_some named_eq
      rw [names_eq] at distinct fresh lonely
      obtain ⟨absent, distinct⟩ := List.nodup_cons.mp distinct
      have freshHere := fresh Name List.mem_cons_self
      obtain ⟨noPort, noConnector⟩ := wired.no_handler freshHere
      have step : datacon.processPort reading object = datacon.addPort Name := by
        rw [Concentrator.processPort, named_eq]
        dsimp only
        rw [complete object List.mem_cons_self, if_neg (by simp), noPort, if_neg (by simp)]
      have wiredNext := wired.addPort freshHere (lonely Name List.mem_cons_self)
      have added := datacon.addPort_added Name
      obtain ⟨wiredLast, addedRest⟩ := ih wiredNext
        (fun other member => named other (List.mem_cons_of_mem object member))
        (fun other member => complete other (List.mem_cons_of_mem object member)) distinct
        (fun other member => by
          obtain ⟨port, connector⟩ := wired.no_handler (fresh other (.tail Name member))
          rw [wiredNext.handler_eq_none_iff, added.DataConnectors, added.old other]
          · exact ⟨port, connector⟩
          · rintro same
            obtain rfl := List.mem_singleton.mp same
            exact absent member)
        (fun other member current subscriber pointer connector registered =>
          lonely other (.tail Name member) current ((added.isConnector_iff wired).mp registered))
      rw [Concentrator.processPorts, List.foldl_cons, step, names_eq]
      refine ⟨wiredLast, added.trans addedRest fun other member inRest => ?_⟩
      obtain rfl := List.mem_singleton.mp member
      exact absent inRest

/-- **Connectors that are created for the entries of a configuration**, with connections between
ports. -/
theorem Wired.processConnectors {Connectors : List (Object E)}
    (wired : Wired stale (fun _ => False) datacon)
    (named : ∀ object ∈ Connectors, object.Name ≠ none)
    (complete : ∀ object ∈ Connectors, reading.connectorComplete object = true)
    (distinct : (names Connectors).Nodup)
    (fresh : ∀ other ∈ names Connectors, datacon.IOHandlers other = none)
    (portsOnly : ∀ object ∈ Connectors, ∀ connection ∈ reading.connectionsOf object, ∀ port,
      port = connection.1 ∨ port = connection.2 →
        port ∉ names Connectors ∧ datacon.DataConnectors port = none) :
    ∃ after, datacon.processConnectors reading Connectors = .ok after ∧
      Wired stale (fun _ => False) after ∧ ConnectorsAdded (names Connectors) datacon after := by
  induction Connectors generalizing datacon with
  | nil =>
      exact ⟨datacon, rfl, wired, le_rfl, fun _ _ => @optionRel_refl _ Handler.Resubscribed
        (fun _ => rfl) _, rfl, fun _ _ => rfl, fun other member => absurd member List.not_mem_nil⟩
  | cons object rest ih =>
      obtain ⟨Name, named_eq⟩ := Option.ne_none_iff_exists'.mp (named object List.mem_cons_self)
      have names_eq : names (object :: rest) = Name :: names rest :=
        List.filterMap_cons_some named_eq
      rw [names_eq] at distinct fresh portsOnly
      obtain ⟨absent, distinct⟩ := List.nodup_cons.mp distinct
      have freshHere := fresh Name List.mem_cons_self
      obtain ⟨noPort, noConnector⟩ := wired.no_handler freshHere
      have step : datacon.processConnector reading object =
          datacon.addConnector Name (reading.connectionsOf object) := by
        rw [Concentrator.processConnector, named_eq]
        dsimp only
        rw [complete object List.mem_cons_self, if_neg (by simp), noConnector, if_neg (by simp)]
      obtain ⟨between, constructed, wiredNext, added⟩ := wired.addConnector freshHere
        fun connection member port isEnd => by
          obtain ⟨other, unlisted⟩ :=
            portsOnly object List.mem_cons_self connection member port isEnd
          exact ⟨List.ne_of_not_mem_cons other, unlisted⟩
      have notNext : ∀ {other}, other ∈ names rest → other ∉ [Name] := by
        intro other member same
        obtain rfl := List.mem_singleton.mp same
        exact absent member
      obtain ⟨after, result, wiredLast, addedRest⟩ := ih wiredNext
        (fun other member => named other (List.mem_cons_of_mem object member))
        (fun other member => complete other (List.mem_cons_of_mem object member)) distinct
        (fun other member => by
          obtain ⟨port, connector⟩ := wired.no_handler (fresh other (.tail Name member))
          rw [wiredNext.handler_eq_none_iff, added.DataPorts, added.old other (notNext member)]
          exact ⟨port, connector⟩)
        (fun other member connection inside port isEnd => by
          obtain ⟨differs, unlisted⟩ :=
            portsOnly other (List.mem_cons_of_mem object member) connection inside port isEnd
          refine ⟨List.not_mem_of_not_mem_cons differs, ?_⟩
          rw [added.old port, unlisted]
          exact fun same => differs (List.mem_singleton.mp same ▸ List.mem_cons_self))
      refine ⟨after, ?_, wiredLast, ?_⟩
      · rw [Concentrator.processConnectors, List.foldlM_cons, step, constructed]
        exact result
      · rw [names_eq]
        exact added.trans addedRest fun other member inRest => notNext inRest member

end Process

end OpenDataCon.Configuration
