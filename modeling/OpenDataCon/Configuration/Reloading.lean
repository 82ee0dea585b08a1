import OpenDataCon.Configuration.Removal

/-!
# What is wired after a reload

Ports that are changed get back their subscribers and demands (`restore_spec`), and the new
connectors are wired as at a start. Then the connectors that stay get the new addresses
(`replaceAddresses_spec`), and the wiring is that of the new configuration (`apply_spec`).

In every run of a start, reloads and events in between, no pointer to a deleted object is
followed, no reload fails terminally, and the wiring is that of the configuration
(`reloads_sound`). Objects that a reload does not concern stay as they were, and ports that are
changed keep their demands (`reload_keeps`).
-/

set_option autoImplicit false

namespace OpenDataCon.Configuration

/-! ## Ports get back their subscribers -/

section Restoring

variable {datacon : Concentrator} {changed : Finset String} {backup : Backup}
  {stale : Nat → String → Prop}

namespace Handler

theorem foldl_subscribe_kept (subs : List (String × Nat)) (handler : Handler) :
    let subscribed := subs.foldl (fun handler sub_pair =>
      handler.subscribe sub_pair.1 sub_pair.2) handler
    subscribed.Name = handler.Name ∧ subscribed.isConnector = handler.isConnector ∧
      subscribed.enabled = handler.enabled ∧
        subscribed.SenderConnections = handler.SenderConnections ∧
          subscribed.demands = handler.demands := by
  induction subs generalizing handler with
  | nil => exact ⟨rfl, rfl, rfl, rfl, rfl⟩
  | cons first rest ih => exact ih (handler.subscribe first.1 first.2)

/-- The last of the subscriptions under one name counts. -/
theorem mem_foldl_subscribe {subs : List (String × Nat)} {subscriber : String} {pointer : Nat}
    (once : ∀ other, (subscriber, other) ∈ subs → other = pointer) (handler : Handler) :
    (subscriber, pointer) ∈ (subs.foldl (fun handler sub_pair =>
        handler.subscribe sub_pair.1 sub_pair.2) handler).Subscribers ↔
      (subscriber, pointer) ∈ subs ∨
        (∀ other, (subscriber, other) ∉ subs) ∧ (subscriber, pointer) ∈ handler.Subscribers := by
  induction subs generalizing handler with
  | nil => simp
  | cons first rest ih =>
      rw [List.foldl_cons, ih fun other inside => once other (List.mem_cons_of_mem first inside),
        Handler.mem_subscribe]
      obtain ⟨name, address⟩ := first
      simp only [List.mem_cons, Prod.mk.injEq, not_or, not_and]
      by_cases same : subscriber = name
      · subst same
        have here : address = pointer := once address List.mem_cons_self
        subst here
        by_cases inside : (subscriber, address) ∈ rest
        · simp [inside]
        · have absent : ∀ other, (subscriber, other) ∉ rest := fun other member =>
            inside (once other (List.mem_cons_of_mem _ member) ▸ member)
          simp [inside, absent]
      · simp [same]

theorem mem_of_mem_foldl_subscribe {subs : List (String × Nat)} {sub_pair : String × Nat}
    {handler : Handler} (none : handler.Subscribers = [])
    (member : sub_pair ∈ (subs.foldl (fun handler sub_pair =>
      handler.subscribe sub_pair.1 sub_pair.2) handler).Subscribers) : sub_pair ∈ subs := by
  suffices general : sub_pair ∈ subs ∨ sub_pair ∈ handler.Subscribers by
    rw [none] at general
    exact general.resolve_right List.not_mem_nil
  clear none
  induction subs generalizing handler with
  | nil => exact .inr member
  | cons first rest ih =>
      rw [List.foldl_cons] at member
      rcases ih member with later | here
      · exact .inl (List.mem_cons_of_mem first later)
      · obtain ⟨subscriber, pointer⟩ := sub_pair
        rcases Handler.mem_subscribe.mp here with ⟨rfl, rfl⟩ | ⟨-, before⟩
        · exact .inl List.mem_cons_self
        · exact .inr before

end Handler

/-- **A loop over names that changes the object of each name**, as far as one is registered. -/
theorem Wired.foldlM_named {bare : String → Prop} (wired : Wired stale bare datacon)
    {step : Concentrator → String → Except Fault Concentrator} {change : Handler → Handler}
    {names : List String} (distinct : names.Nodup)
    (missing : ∀ name ∈ names, datacon.IOHandlers name = none → ∀ reached,
      SameNames datacon reached → step reached name = .ok reached)
    (present : ∀ name ∈ names, ∀ address handler, datacon.IOHandlers name = some address →
      datacon.heap address = some handler → ∀ reached, SameNames datacon reached →
        reached.heap address = some handler → step reached name = reached.modify address change) :
    names.foldlM step datacon = .ok (datacon.mapHeap fun _ handler =>
      if handler.Name ∈ names then change handler else handler) := by
  suffices loops : ∃ last, names.foldlM step datacon = .ok last ∧
      last = datacon.mapHeap fun _ handler =>
        if handler.Name ∈ names then change handler else handler by
    obtain ⟨last, result, rfl⟩ := loops
    exact result
  refine @Exceptions.foldlM_spec _ _ _ _ names (fun done reached =>
    reached = datacon.mapHeap fun _ handler =>
      if handler.Name ∈ done then change handler else handler) datacon ?_ ?_
  · simp [Concentrator.mapHeap_self]
  rintro done name prefixes reached rfl
  have member := prefixes.subset (List.mem_append_right done List.mem_cons_self)
  have fresh : name ∉ done := fun inside =>
    (List.nodup_append.mp (distinct.sublist prefixes.sublist)).2.2 name inside name
      List.mem_cons_self rfl
  have others : ∀ handler : Handler, handler.Name ≠ name →
      (if handler.Name ∈ done ++ [name] then change handler else handler) =
        if handler.Name ∈ done then change handler else handler := by
    intro handler differs
    simp [differs]
  cases listed : datacon.IOHandlers name with
  | none =>
      refine ⟨_, missing name member listed _ Concentrator.sameNames_mapHeap,
        Concentrator.mapHeap_congr fun {address handler} alive => (others handler ?_).symm⟩
      rintro rfl
      cases listed.symm.trans (wired.owned alive).2
  | some address =>
      obtain ⟨handler, alive, named⟩ : ∃ handler, datacon.heap address = some handler ∧
          handler.Name = name := by
        rcases (wired.handlers name address).mp listed with isPort | isConnector
        · obtain ⟨port, alive, named, -⟩ := wired.port isPort
          exact ⟨port, alive, named⟩
        · obtain ⟨connector, alive, named, -⟩ := wired.connector isConnector
          exact ⟨connector, alive, named⟩
      have found := @Concentrator.heap_mapHeap _ (fun _ handler =>
        if handler.Name ∈ done then change handler else handler) _ _ alive
      rw [named, if_neg fresh] at found
      rw [present name member address handler listed alive _ Concentrator.sameNames_mapHeap found,
        Concentrator.modify_eq_map _ found, Concentrator.mapHeap_mapHeap]
      refine ⟨_, rfl, Concentrator.mapHeap_congr fun {other otherHandler} otherAlive => ?_⟩
      by_cases here : other = address
      · subst here
        obtain rfl := Option.some_inj.mp (alive.symm.trans otherAlive)
        rw [if_pos rfl, named, if_neg fresh, if_pos (by simp)]
      · have differs : otherHandler.Name ≠ name := by
          rintro rfl
          exact here (Option.some_inj.mp ((wired.owned otherAlive).2.symm.trans listed))
        rw [if_neg here, others otherHandler differs]

/-- What the loop over the changed objects makes of each object. -/
def restored (backup : Backup) (names : List String) (handler : Handler) : Handler :=
  if handler.Name ∈ names then
    handler.restore (backup.old_subs handler.Name) (backup.old_demands handler.Name)
  else handler

theorem restored_kept (backup : Backup) (names : List String) (handler : Handler) :
    (restored backup names handler).Name = handler.Name ∧
      (restored backup names handler).isConnector = handler.isConnector ∧
        (restored backup names handler).enabled = handler.enabled ∧
          (restored backup names handler).SenderConnections = handler.SenderConnections := by
  unfold restored
  split_ifs with member
  · obtain ⟨named, flag, enabled, connections, -⟩ :=
      Handler.foldl_subscribe_kept (backup.old_subs handler.Name) handler
    exact ⟨named, flag, enabled, connections⟩
  · exact ⟨rfl, rfl, rfl, rfl⟩

/-- **The ports that are changed get back their subscribers**, and their demands. -/
theorem restore_spec {bare : String → Prop} (wired : Wired stale bare datacon)
    (ports : ∀ name ∈ changed, datacon.DataConnectors name = none) :
    changed.sort.foldlM (Concentrator.restoreObject backup) datacon =
      .ok (datacon.mapHeap fun _ => restored backup changed.sort) := by
  have isPort : ∀ {name address}, name ∈ changed.sort →
      datacon.IOHandlers name = some address → datacon.DataPorts name = some address := by
    intro name address member listed
    refine ((wired.handlers name address).mp listed).resolve_right fun isConnector => ?_
    cases (ports name ((Finset.mem_sort _).mp member)).symm.trans isConnector
  refine wired.foldlM_named (changed.sort_nodup (· ≤ ·)) ?_ ?_
  · intro name member missing reached same
    rw [Concentrator.restoreObject, same.IOHandlers, missing]
  · intro name member address handler listed alive reached same found
    obtain ⟨port, portAlive, named, flag⟩ := wired.port (isPort member listed)
    obtain rfl := Option.some_inj.mp (portAlive.symm.trans alive)
    rw [Concentrator.restoreObject, same.IOHandlers, listed]
    dsimp only
    rw [Concentrator.follow_eq found]
    change (if port.isConnector = true then _ else _) = _
    rw [flag, if_neg Bool.false_ne_true, Concentrator.modify_eq found, Concentrator.modify_eq found,
      named]

/-- **The wiring is complete again**, but for the addresses in connectors that stay. -/
theorem Wired.restored (wired : Wired stale (fun name => name ∈ changed) datacon)
    (ports : ∀ name ∈ changed, datacon.DataConnectors name = none)
    (fresh : ∀ name ∈ changed, ∀ address port, IsPort datacon name address port →
      port.Subscribers = [])
    (saved : ∀ name ∈ changed, ∀ address port, IsPort datacon name address port →
      ∀ subscriber pointer, (subscriber, pointer) ∈ backup.old_subs name ↔
        ∃ connector, IsConnector datacon subscriber pointer connector ∧ Connects connector name) :
    Wired stale (fun _ => False) (datacon.mapHeap fun _ => restored backup changed.sort) := by
  have kept := restored_kept backup changed.sort
  have same : ∀ {name address was}, IsConnector datacon name address was →
      Configuration.restored backup changed.sort was = was := by
    intro name address was registered
    rw [Configuration.restored, wired.connector_name registered, if_neg]
    intro member
    cases (ports name ((Finset.mem_sort _).mp member)).symm.trans registered.listed
  have rewritten : Rewritten (fun _ was now => now =
      Configuration.restored backup changed.sort was) datacon _ := .map fun _ => rfl
  refine wired.inPlace rewritten ?_ ?_ ?_ ?_ ?_
  · rintro address was now rfl
    exact ⟨(kept was).1, (kept was).2.1⟩
  · rintro name address was now old rfl
    rw [same old]
  · rintro name address was now old rfl
    rw [same old]
    exact wired.both old
  · rintro name address was now old rfl
    rw [same old]
    exact wired.connected old
  · rintro name address was now old rfl _ subscriber pointer
    rw [rewritten.connects_iff fun connector restored => by rw [restored, same connector],
      Configuration.restored, wired.port_name old]
    by_cases member : name ∈ changed
    · rw [if_pos ((Finset.mem_sort _).mpr member), ← saved name member address was old]
      change (subscriber, pointer) ∈ (List.foldl _ was _).Subscribers ↔ _
      by_cases inside : (subscriber, pointer) ∈ backup.old_subs name
      · refine (Handler.mem_foldl_subscribe (fun other otherInside => ?_) was).trans ?_
        · obtain ⟨one, isOne, -⟩ := (saved name member address was old subscriber pointer).mp inside
          obtain ⟨two, isTwo, -⟩ :=
            (saved name member address was old subscriber other).mp otherInside
          exact Option.some_inj.mp (isTwo.listed.symm.trans isOne.listed)
        · exact or_iff_left_of_imp fun _ => inside
      · refine iff_of_false (fun found => inside ?_) inside
        have none := fresh name member address was old
        exact Handler.mem_of_mem_foldl_subscribe none found
    · rw [if_neg fun inside => member ((Finset.mem_sort _).mp inside)]
      exact wired.subscribed old member subscriber pointer

end Restoring

/-! ## Connectors get the new addresses -/

section Readdressing

variable {datacon : Concentrator} {backup : Backup} {stale : Nat → String → Prop}
  {lookup : String → Option Nat} {done : List (String × Nat)}

/-- A connection after some of the addresses have been replaced. -/
def SenderConnection.readdressed (lookup : String → Option Nat) (done : List (String × Nat))
    (address : Nat) (connection : SenderConnection) : SenderConnection :=
  if (connection.receiver, address) ∈ done then
    { connection with address := (lookup connection.receiver).getD connection.address }
  else connection

def readdressed (lookup : String → Option Nat) (done : List (String × Nat)) (address : Nat)
    (handler : Handler) : Handler :=
  { handler with
    SenderConnections := handler.SenderConnections.map
      (SenderConnection.readdressed lookup done address) }

theorem SenderConnection.readdressed_kept (lookup : String → Option Nat)
    (done : List (String × Nat)) (address : Nat) (connection : SenderConnection) :
    (connection.readdressed lookup done address).sender = connection.sender ∧
      (connection.readdressed lookup done address).receiver = connection.receiver := by
  unfold readdressed
  split_ifs <;> exact ⟨rfl, rfl⟩

theorem readdressed_nil (lookup : String → Option Nat) :
    readdressed lookup [] = fun _ handler => handler := by
  funext address handler
  have same : SenderConnection.readdressed lookup [] address = id := rfl
  rw [readdressed, same, List.map_id]

/-- One more address is replaced. -/
theorem readdressed_append {need : String × Nat} {new : Nat} (found : lookup need.1 = some new)
    (address : Nat) (handler : Handler) :
    readdressed lookup (done ++ [need]) address handler =
      if address = need.2 then
        (readdressed lookup done address handler).replaceAddress need.1 new
      else readdressed lookup done address handler := by
  obtain ⟨receiver, pointer⟩ := need
  dsimp only at found ⊢
  unfold readdressed Handler.replaceAddress
  by_cases here : address = pointer
  · rw [if_pos here, List.map_map]
    congr 2
    funext connection
    rw [Function.comp_apply, (connection.readdressed_kept lookup done address).2]
    by_cases isReceiver : connection.receiver = receiver
    · subst here
      simp only [SenderConnection.readdressed, isReceiver, found, List.mem_append,
        List.mem_singleton, or_true, if_true, Option.getD_some]
      split_ifs <;> rfl
    · rw [if_neg isReceiver]
      simp [SenderConnection.readdressed, isReceiver]
  · rw [if_neg here]
    congr 2
    funext connection
    simp [SenderConnection.readdressed, here]

/-- The connectors that need the address of one port get it. -/
theorem replaceAddress_loop {needs : List (String × Nat)} {name : String} {new : Nat}
    (listed : datacon.IOHandlers name = some new) (same : ∀ need ∈ needs, need.1 = name)
    (alive : ∀ need ∈ needs, ∃ handler, datacon.heap need.2 = some handler)
    (done : List (String × Nat)) :
    needs.foldlM (fun datacon need => datacon.modify need.2 (Handler.replaceAddress name new))
        (datacon.mapHeap (readdressed datacon.IOHandlers done)) =
      .ok (datacon.mapHeap (readdressed datacon.IOHandlers (done ++ needs))) := by
  induction needs generalizing done with
  | nil => rw [List.append_nil, List.foldlM_nil]; rfl
  | cons need rest ih =>
      obtain ⟨handler, found⟩ := alive need List.mem_cons_self
      have named := same need List.mem_cons_self
      rw [List.foldlM_cons, Concentrator.modify_eq_map _ (Concentrator.heap_mapHeap found),
        Concentrator.mapHeap_mapHeap]
      have step := ih (fun other inside => same other (List.mem_cons_of_mem need inside))
        (fun other inside => alive other (List.mem_cons_of_mem need inside)) (done ++ [need])
      rw [List.append_assoc, List.singleton_append] at step
      rw [← step]
      change List.foldlM _ _ rest = _
      refine congrArg (List.foldlM _ · rest) (Concentrator.mapHeap_congr fun _ => ?_)
      rw [readdressed_append (named ▸ listed), named]

/-- Which addresses are replaced. -/
def replaced (backup : Backup) (names : List String) : List (String × Nat) :=
  names.flatMap fun name => backup.needs_new_addr.filter fun needs => needs.1 = name

theorem mem_replaced {names : List String} {need : String × Nat} :
    need ∈ replaced backup names ↔ need ∈ backup.needs_new_addr ∧ need.1 ∈ names := by
  simp [replaced, and_comm]

/-- **All connectors that stay get the addresses of the ports that are changed.** -/
theorem replaceAddresses_spec {names : List String}
    (registered : ∀ name ∈ names, ∃ address, datacon.IOHandlers name = some address)
    (alive : ∀ need ∈ backup.needs_new_addr, ∃ handler, datacon.heap need.2 = some handler) :
    names.foldlM (Concentrator.replaceAddresses backup) datacon =
      .ok (datacon.mapHeap (readdressed datacon.IOHandlers (replaced backup names))) := by
  suffices general : ∀ done, names.foldlM (Concentrator.replaceAddresses backup)
        (datacon.mapHeap (readdressed datacon.IOHandlers done)) =
      .ok (datacon.mapHeap (readdressed datacon.IOHandlers (done ++ replaced backup names))) by
    have start := general []
    rw [List.nil_append, readdressed_nil, Concentrator.mapHeap_self] at start
    exact start
  induction names with
  | nil =>
      intro done
      rw [replaced, List.flatMap_nil, List.append_nil, List.foldlM_nil]
      rfl
  | cons name rest ih =>
      intro done
      obtain ⟨new, listed⟩ := registered name List.mem_cons_self
      rw [List.foldlM_cons, Concentrator.replaceAddresses, Concentrator.mapHeap, listed]
      dsimp only
      rw [← Concentrator.mapHeap, replaceAddress_loop listed
        (fun need inside => of_decide_eq_true (List.mem_filter.mp inside).2)
        fun need inside => alive need (List.mem_filter.mp inside).1]
      refine (ih (fun other inside => registered other (List.mem_cons_of_mem name inside)) _).trans
        ?_
      rw [List.append_assoc]
      rfl

/-- **Each connection has the address of the port that is registered now.** -/
theorem Wired.readdressed (wired : Wired stale (fun _ => False) datacon)
    (covers : ∀ {name address connector}, IsConnector datacon name address connector →
      ∀ connection ∈ connector.SenderConnections, stale address connection.receiver →
        (connection.receiver, address) ∈ done ∧
          ∃ port, datacon.DataPorts connection.receiver = some port) :
    Wired (fun _ _ => False) (fun _ => False)
      (datacon.mapHeap (readdressed datacon.IOHandlers done)) := by
  have rewritten : Rewritten (fun address was now => now =
      Configuration.readdressed datacon.IOHandlers done address was) datacon _ := .map fun _ => rfl
  have kept := SenderConnection.readdressed_kept datacon.IOHandlers done
  refine wired.inPlace rewritten ?_ ?_ ?_ ?_ ?_
  · rintro address was now rfl
    exact ⟨rfl, rfl⟩
  · rintro name address was now old rfl
    rfl
  · rintro name address was now old rfl connection inside
    obtain ⟨before, beforeInside, rfl⟩ := List.mem_map.mp inside
    obtain ⟨other, otherInside, isSender, isReceiver⟩ := wired.both old before beforeInside
    refine ⟨_, List.mem_map_of_mem otherInside, ?_, ?_⟩
    · rw [(kept address other).1, (kept address before).2, isSender]
    · rw [(kept address other).2, (kept address before).1, isReceiver]
  · rintro name address was now old rfl connection inside _
    obtain ⟨before, beforeInside, rfl⟩ := List.mem_map.mp inside
    rw [(kept address before).2]
    by_cases isDone : (before.receiver, address) ∈ done
    · have isPort : ∃ port, datacon.DataPorts before.receiver = some port := by
        by_cases isStale : stale address before.receiver
        · exact (covers old before beforeInside isStale).2
        · exact ⟨_, wired.connected old before beforeInside isStale⟩
      obtain ⟨port, listed⟩ := isPort
      rw [SenderConnection.readdressed, if_pos isDone,
        (wired.handlers _ port).mpr (.inl listed), listed]
      rfl
    · rw [SenderConnection.readdressed, if_neg isDone]
      refine wired.connected old before beforeInside fun isStale => isDone ?_
      exact (covers old before beforeInside isStale).1
  · rintro name address was now old rfl _ subscriber pointer
    refine (wired.subscribed old id subscriber pointer).trans (rewritten.connects_iff ?_).symm
    rintro handler other _ rfl
    simp only [Connects, Configuration.readdressed, List.mem_map, exists_exists_and_eq_and,
      (kept _ _).1]

end Readdressing

/-! ## A plan is applied -/

section Applying

variable {E : Type} {old : MainConf E} {plan : Plan E} {changes : Changes}
  {datacon removed : Concentrator} {backup : Backup}

theorem mem_names_filter {objects : List (Object E)} {chosen : String → Prop}
    [DecidablePred chosen] {name : String} :
    name ∈ names (objects.filter fun object => object.Name.any fun name => chosen name) ↔
      name ∈ names objects ∧ chosen name := by
  rw [mem_names, mem_names]
  constructor
  · rintro ⟨object, member, named⟩
    obtain ⟨inside, isChosen⟩ := List.mem_filter.mp member
    rw [named, Option.any_some] at isChosen
    exact ⟨⟨object, inside, named⟩, of_decide_eq_true isChosen⟩
  · rintro ⟨⟨object, inside, named⟩, isChosen⟩
    refine ⟨object, List.mem_filter.mpr ⟨inside, ?_⟩, named⟩
    rw [named, Option.any_some]
    exact decide_eq_true isChosen

namespace Planned

theorem mem_Ports (planned : Planned old plan changes datacon) {name : String} :
    name ∈ names plan.Ports ↔ name ∈ names plan.new_main_conf.Ports ∧
      (name ∈ changes.created ∨ name ∈ plan.changed) := by
  rw [planned.found.Ports, planned.changed]
  exact mem_names_filter

theorem mem_Connectors (planned : Planned old plan changes datacon) {name : String} :
    name ∈ names plan.Connectors ↔ name ∈ names plan.new_main_conf.Connectors ∧
      (name ∈ changes.created ∨ name ∈ plan.changed) := by
  rw [planned.found.Connectors, planned.changed]
  exact mem_names_filter

theorem changed_subset (planned : Planned old plan changes datacon) :
    plan.changed ⊆ plan.delete_or_change := by
  rw [planned.delete_or_change, planned.changed]
  exact Finset.subset_union_right

/-- A name that is changed is that of a port in both configurations, or of a connector. -/
theorem mem_changed (planned : Planned old plan changes datacon) {name : String}
    (member : name ∈ plan.changed) :
    name ∈ names plan.Ports ∧ name ∈ names old.Ports ∨
      name ∈ names plan.Connectors ∧ name ∈ names old.Connectors := by
  rw [planned.mem_Ports, planned.mem_Connectors]
  refine (planned.found.changed name (planned.changed ▸ member)).imp ?_ ?_
  · exact fun both => ⟨⟨both.1, .inr member⟩, both.2⟩
  · exact fun both => ⟨⟨both.1, .inr member⟩, both.2⟩

theorem registered (planned : Planned old plan changes datacon) (sound : Sound old datacon) :
    ∀ name ∈ plan.delete_or_change, ∃ address handler,
      datacon.IOHandlers name = some address ∧ datacon.heap address = some handler := by
  rw [planned.delete_or_change]
  exact planned.found.registered sound

/-- An object of both configurations that is not changed stays. -/
theorem stays (planned : Planned old plan changes datacon) (sound : Sound old datacon)
    {name : String} (both : name ∈ names plan.new_main_conf.Ports ∧ name ∈ names old.Ports ∨
      name ∈ names plan.new_main_conf.Connectors ∧ name ∈ names old.Connectors)
    (unchanged : name ∉ plan.changed) : name ∉ plan.delete_or_change := by
  rw [planned.delete_or_change, ← planned.changed, Finset.mem_union, planned.found.deleted]
  rintro ((⟨isPort, notNew⟩ | ⟨isConnector, notNew⟩) | isChanged)
  · exact both.elim (fun ports => notNew ports.1) fun connectors =>
      sound.apart isPort connectors.2
  · exact both.elim (fun ports => sound.apart ports.2 isConnector) fun connectors =>
      notNew connectors.1
  · exact unchanged isChanged

/-- A port of the old configuration that stays is one of the new configuration. -/
theorem port_stays (planned : Planned old plan changes datacon) {name : String}
    (isOld : name ∈ names old.Ports) (stays : name ∉ plan.delete_or_change) :
    name ∈ names plan.new_main_conf.Ports := by
  by_contra absent
  refine stays ?_
  rw [planned.delete_or_change]
  exact Finset.mem_union_left _ ((planned.found.deleted name).mpr (.inl ⟨isOld, absent⟩))

theorem connector_stays (planned : Planned old plan changes datacon) {name : String}
    (isOld : name ∈ names old.Connectors) (stays : name ∉ plan.delete_or_change) :
    name ∈ names plan.new_main_conf.Connectors := by
  by_contra absent
  refine stays ?_
  rw [planned.delete_or_change]
  exact Finset.mem_union_left _ ((planned.found.deleted name).mpr (.inr ⟨isOld, absent⟩))

end Planned

/-- The objects that are deleted or changed are removed. -/
theorem Sound.remove_spec (sound : Sound old datacon)
    (planned : Planned old plan changes datacon) :
    ∃ unsubscribed state,
      plan.delete_or_change.sort.foldlM Concentrator.unSubscribeObject datacon =
        .ok unsubscribed ∧
      plan.delete_or_change.sort.foldlM (Concentrator.takeOut plan.changed plan.delete_or_change)
        (unsubscribed, {}) = .ok state ∧
      Removed plan.delete_or_change datacon (state.1.free state.2.to_delete) ∧
      Saved plan.changed plan.delete_or_change datacon state.2 := by
  have registered := planned.registered sound
  refine ⟨_, _, sound.wired.unSubscribe_spec registered, takeOut_spec fun name member => ?_,
    sound.wired.removed_of, saved_of planned.changed_subset⟩
  obtain ⟨address, handler, listed, alive⟩ := registered name member
  refine ⟨address, _, listed, Concentrator.heap_mapHeap alive, fun subscriber inside => ?_⟩
  obtain ⟨connector, isConnector, flag, -⟩ :=
    sound.wired.subscriber_alive listed alive (Handler.mem_trimmed.mp inside).1
  exact ⟨_, Concentrator.heap_mapHeap isConnector.alive, flag⟩

/-- A connection of a connector that stays, to a port that is changed. -/
def Outdated (datacon : Concentrator) (plan : Plan E) (address : Nat) (receiver : String) : Prop :=
  address < datacon.next ∧ receiver ∈ plan.changed

/-- What is left is wired but for the ports that are changed. -/
theorem Sound.removed_wired (sound : Sound old datacon)
    (planned : Planned old plan changes datacon)
    (gone : Removed plan.delete_or_change datacon removed) :
    Wired (Outdated datacon plan) (fun _ => False) removed := by
  refine gone.wired sound.wired ?_
  intro name member notChanged address port isPort
  rw [planned.delete_or_change, Finset.mem_union] at member
  rw [planned.changed] at notChanged
  refine planned.leavesNone name (member.resolve_right notChanged) address port ?_ isPort.alive
  exact (sound.wired.handlers name address).mpr (.inl isPort.listed)

/-- Nothing is left under the name of an object that is created. -/
theorem Sound.removed_free (sound : Sound old datacon) (planned : Planned old plan changes datacon)
    (gone : Removed plan.delete_or_change datacon removed) {name : String}
    (isNew : name ∈ changes.created ∨ name ∈ plan.changed) :
    removed.IOHandlers name = none ∧ removed.DataPorts name = none ∧
      removed.DataConnectors name = none := by
  by_cases isRemoved : name ∈ plan.delete_or_change
  · exact gone.gone name isRemoved
  · have isCreated := isNew.resolve_right fun isChanged =>
      isRemoved (planned.changed_subset isChanged)
    have apart := planned.valid.apart name
    have none : datacon.DataPorts name = none ∧ datacon.DataConnectors name = none := by
      rcases (planned.found.created name).mp isCreated with ⟨isPort, notOld⟩ | ⟨isConnector, notOld⟩
      · exact ⟨sound.no_port notOld, sound.no_connector fun isOld =>
          apart isPort (planned.connector_stays isOld isRemoved)⟩
      · exact ⟨sound.no_port fun isOld =>
          apart (planned.port_stays isOld isRemoved) isConnector, sound.no_connector notOld⟩
    obtain ⟨handlers, ports, connectors⟩ := gone.kept name isRemoved
    rw [handlers, ports, connectors]
    exact ⟨sound.wired.handler_eq_none_iff.mpr none, none⟩

theorem Wired.mono {stale stale' : Nat → String → Prop} {bare bare' : String → Prop}
    (wired : Wired stale bare datacon) (moreStale : ∀ {address name}, stale address name →
      stale' address name) (moreBare : ∀ {name}, bare name → bare' name) :
    Wired stale' bare' datacon where
  handlers := wired.handlers
  port := wired.port
  connector := wired.connector
  owned := wired.owned
  both := wired.both
  connected registered connection inside current :=
    wired.connected registered connection inside fun isStale => current (moreStale isStale)
  subscribed isPort current :=
    wired.subscribed isPort fun isBare => current (moreBare isBare)

/-- **The new ports are created, and those that were changed get back their subscribers.** -/
theorem Sound.ports_spec (sound : Sound old datacon) (planned : Planned old plan changes datacon)
    (gone : Removed plan.delete_or_change datacon removed)
    (saved : Saved plan.changed plan.delete_or_change datacon backup) :
    let ports := removed.processPorts plan.reading plan.Ports
    PortsAdded (names plan.Ports) removed ports ∧
      plan.changed.sort.foldlM (Concentrator.restoreObject backup) ports =
        .ok (ports.mapHeap fun _ => restored backup plan.changed.sort) ∧
      Wired (Outdated datacon plan) (fun _ => False)
        (ports.mapHeap fun _ => restored backup plan.changed.sort) := by
  intro ports
  have wiredRemoved := sound.removed_wired planned gone
  have valid := planned.valid
  have subset : ∀ object ∈ plan.Ports, object ∈ plan.new_main_conf.Ports := by
    rw [planned.found.Ports]
    exact fun object member => (List.mem_filter.mp member).1
  have noConnector : ∀ name ∈ plan.changed, removed.DataConnectors name = none := fun name member =>
    (gone.gone name (planned.changed_subset member)).2.2
  obtain ⟨wired, added⟩ := @Wired.processPorts E plan.reading _ (fun name => name ∈ plan.changed)
    removed plan.Ports (wiredRemoved.mono id False.elim)
    (fun object member => valid.namedPorts object (subset object member))
    (fun object member => valid.portComplete object (subset object member))
    (by
      refine valid.distinctPorts.sublist ?_
      rw [planned.found.Ports]
      exact List.filter_sublist.filterMap _)
    (fun name member => (sound.removed_free planned gone (planned.mem_Ports.mp member).2).1)
    (fun name member notChanged subscriber pointer connector registered connects => by
      obtain ⟨isNew, createdOrChanged⟩ := planned.mem_Ports.mp member
      have isCreated := createdOrChanged.resolve_right notChanged
      obtain ⟨oldRegistered, -⟩ := (gone.isConnector_iff sound.wired).mp registered
      obtain ⟨address, port, isPort, -⟩ := sound.wired.port_of_connects oldRegistered connects
      have isOld := (sound.ports name).mpr ⟨address, isPort.listed⟩
      rcases (planned.found.created name).mp isCreated with ⟨-, notOld⟩ | ⟨isConnector, -⟩
      · exact notOld isOld
      · exact valid.apart name isNew isConnector)
  have noConnectorNow : ∀ name ∈ plan.changed, ports.DataConnectors name = none :=
    fun name member => (congrFun added.DataConnectors name).trans (noConnector name member)
  have isNew : ∀ name ∈ plan.changed, ∀ address port, IsPort ports name address port →
      name ∈ names plan.Ports ∧ port = { Name := name, isConnector := false } := by
    intro name member address port registered
    by_cases inPorts : name ∈ names plan.Ports
    · obtain ⟨newAddress, -, -, listed, alive⟩ := added.new name inPorts
      obtain rfl := Option.some_inj.mp (listed.symm.trans registered.listed)
      exact ⟨inPorts, Option.some_inj.mp (registered.alive.symm.trans alive)⟩
    · have none := (gone.gone name (planned.changed_subset member)).2.1
      cases none.symm.trans ((added.old name inPorts).symm.trans registered.listed)
  refine ⟨added, restore_spec wired noConnectorNow, wired.restored noConnectorNow ?_ ?_⟩
  · intro name member address port registered
    rw [(isNew name member address port registered).2]
  · intro name member address port registered subscriber pointer
    have inPorts := (isNew name member address port registered).1
    have isOld : name ∈ names old.Ports := by
      rcases planned.mem_changed member with ⟨-, isOld⟩ | ⟨isConnector, -⟩
      · exact isOld
      · exact absurd (planned.mem_Connectors.mp isConnector).1
          (valid.apart name (planned.mem_Ports.mp inPorts).1)
    obtain ⟨oldAddress, oldListed⟩ := (sound.ports name).mp isOld
    obtain ⟨oldPort, oldAlive, -⟩ := sound.wired.port oldListed
    have isOldPort : IsPort datacon name oldAddress oldPort := ⟨oldListed, oldAlive⟩
    rw [(saved.old name member oldPort (sound.wired.named_port isOldPort)).1,
      sound.wired.subscribed isOldPort id, and_comm, ← exists_and_left]
    refine exists_congr fun connector => ?_
    rw [added.isConnector_iff wiredRemoved, gone.isConnector_iff sound.wired, ← and_assoc]
    exact and_congr_left fun _ => and_comm

/-- The ports of the new configuration are there; the connectors are those that are left. -/
structure PortsReady (plan : Plan E) (removed ready : Concentrator) : Prop where
  next : removed.next ≤ ready.next
  new : ∀ name ∈ names plan.Ports, ∃ address, ready.DataPorts name = some address
  old : ∀ name ∉ names plan.Ports, ready.DataPorts name = removed.DataPorts name
  DataConnectors : ready.DataConnectors = removed.DataConnectors
  connectors : ∀ {name address connector}, IsConnector ready name address connector ↔
    IsConnector removed name address connector

theorem Sound.portsReady (sound : Sound old datacon) (planned : Planned old plan changes datacon)
    (gone : Removed plan.delete_or_change datacon removed) {ports : Concentrator}
    (added : PortsAdded (names plan.Ports) removed ports) :
    PortsReady plan removed (ports.mapHeap fun _ => restored backup plan.changed.sort) := by
  have wiredRemoved := sound.removed_wired planned gone
  refine ⟨added.next, fun name member => ?_, added.old, added.DataConnectors, ?_⟩
  · obtain ⟨address, -, -, listed, -⟩ := added.new name member
    exact ⟨address, listed⟩
  · intro name address connector
    have same : ∀ {was}, IsConnector ports name address was →
        restored backup plan.changed.sort was = was := by
      intro was registered
      have left := (added.isConnector_iff wiredRemoved).mp registered
      rw [restored, wiredRemoved.connector_name left, if_neg]
      intro member
      have none := (gone.gone name
        (planned.changed_subset ((Finset.mem_sort _).mp member))).2.2
      cases none.symm.trans left.listed
    rw [← added.isConnector_iff wiredRemoved]
    constructor
    · intro registered
      obtain ⟨was, alive, became⟩ := Option.map_eq_some_iff.mp registered.alive
      have old : IsConnector ports name address was := ⟨registered.listed, alive⟩
      obtain rfl : was = connector := (same old).symm.trans became
      exact old
    · intro registered
      exact ⟨registered.listed, (Concentrator.heap_mapHeap registered.alive).trans
        (congrArg some (same registered))⟩

/-- **The new connectors are created, and the ones that stay get the new addresses.** -/
theorem Sound.connectors_spec (sound : Sound old datacon)
    (planned : Planned old plan changes datacon)
    (gone : Removed plan.delete_or_change datacon removed)
    (saved : Saved plan.changed plan.delete_or_change datacon backup) {ready : Concentrator}
    (portsReady : PortsReady plan removed ready)
    (wired : Wired (Outdated datacon plan) (fun _ => False) ready) :
    ∃ connectors, ready.processConnectors plan.reading plan.Connectors = .ok connectors ∧
      ConnectorsAdded (names plan.Connectors) ready connectors ∧
      plan.changed.sort.foldlM (Concentrator.replaceAddresses backup) connectors =
        .ok (connectors.mapHeap
          (readdressed connectors.IOHandlers (replaced backup plan.changed.sort))) ∧
      Wired (fun _ _ => False) (fun _ => False) (connectors.mapHeap
        (readdressed connectors.IOHandlers (replaced backup plan.changed.sort))) := by
  have valid := planned.valid
  have subset : ∀ object ∈ plan.Connectors, object ∈ plan.new_main_conf.Connectors := by
    rw [planned.found.Connectors]
    exact fun object member => (List.mem_filter.mp member).1
  have subsetNames : ∀ name ∈ names plan.Connectors, name ∈ names plan.new_main_conf.Connectors :=
    fun name member => (planned.mem_Connectors.mp member).1
  have unlisted : ∀ {name}, name ∉ names plan.new_main_conf.Connectors →
      ready.DataConnectors name = none := by
    intro name absent
    rw [portsReady.DataConnectors]
    by_cases isRemoved : name ∈ plan.delete_or_change
    · exact (gone.gone name isRemoved).2.2
    · rw [(gone.kept name isRemoved).2.2]
      exact sound.no_connector fun isOld => absent (planned.connector_stays isOld isRemoved)
  obtain ⟨connectors, processed, wiredConnectors, added⟩ := @Wired.processConnectors E plan.reading
    _ ready plan.Connectors wired
    (fun object member => valid.namedConnectors object (subset object member))
    (fun object member => valid.connectorComplete object (subset object member))
    (by
      refine valid.distinctConnectors.sublist ?_
      rw [planned.found.Connectors]
      exact List.filter_sublist.filterMap _)
    (fun name member => by
      obtain ⟨isNew, createdOrChanged⟩ := planned.mem_Connectors.mp member
      have notPort : name ∉ names plan.new_main_conf.Ports := fun isPort =>
        valid.apart name isPort isNew
      rw [wired.handler_eq_none_iff, portsReady.DataConnectors,
        portsReady.old name fun isPort => notPort (planned.mem_Ports.mp isPort).1]
      exact (sound.removed_free planned gone createdOrChanged).2)
    (fun object member connection inside port isEnd => by
      have absent := valid.portsOnly object (subset object member) connection inside port isEnd
      exact ⟨fun isConnector => absent (subsetNames port isConnector), unlisted absent⟩)
  -- a connector that stays points to ports, as it did before
  have stays : ∀ {name address connector}, IsConnector connectors name address connector →
      address < datacon.next → ∃ was, IsConnector datacon name address was ∧
        name ∉ plan.delete_or_change ∧ connector.SenderConnections = was.SenderConnections := by
    intro name address connector registered low
    have isOld : name ∉ names plan.Connectors := by
      intro member
      obtain ⟨newAddress, high, -, listed⟩ := added.new name member
      obtain rfl := Option.some_inj.mp (listed.symm.trans registered.listed)
      rw [← gone.next] at low
      exact absurd (portsReady.next.trans high) (not_le_of_gt low)
    have listed : ready.DataConnectors name = some address :=
      (added.old name isOld).symm.trans registered.listed
    obtain ⟨was, alive, -⟩ := wired.connector listed
    obtain ⟨old, other⟩ := (gone.isConnector_iff sound.wired).mp
      (portsReady.connectors.mp ⟨listed, alive⟩)
    refine ⟨was, old, other, ?_⟩
    have related := added.heap address (wired.lt_next_of_connector listed)
    rw [alive, registered.alive] at related
    cases related with
    | some resubscribed => rw [resubscribed]
  have isPort : ∀ {name}, name ∈ names plan.Ports →
      ∃ address, connectors.DataPorts name = some address := by
    intro name member
    rw [added.DataPorts]
    exact portsReady.new name member
  refine ⟨connectors, processed, added, replaceAddresses_spec ?_ ?_, wiredConnectors.readdressed ?_⟩
  · intro name member
    rcases planned.mem_changed ((Finset.mem_sort _).mp member) with ⟨inPorts, -⟩ | ⟨inConnectors, -⟩
    · obtain ⟨address, listed⟩ := isPort inPorts
      exact ⟨address, (wiredConnectors.handlers name address).mpr (.inl listed)⟩
    · obtain ⟨address, -, -, listed⟩ := added.new name inConnectors
      exact ⟨address, (wiredConnectors.handlers name address).mpr (.inr listed)⟩
  · intro need member
    obtain ⟨-, handler, named, subscriber, inside, other⟩ := (saved.needs need).mp member
    obtain ⟨address, listed, alive⟩ := Concentrator.named_eq_some_iff.mp named
    obtain ⟨connector, registered, -, -⟩ := sound.wired.subscriber_alive listed alive inside
    have left := portsReady.connectors.mpr ((gone.isConnector_iff sound.wired).mpr
      ⟨registered, other⟩)
    have related := added.heap need.2 (wired.lt_next_of_connector left.listed)
    rw [left.alive] at related
    generalize connectors.heap need.2 = now at related
    cases related with
    | some _ => exact ⟨_, rfl⟩
  · rintro name address connector registered connection inside ⟨low, isChanged⟩
    obtain ⟨was, old, other, connections⟩ := stays registered low
    rw [connections] at inside
    obtain ⟨back, backInside, isSender, -⟩ := sound.wired.both old connection inside
    obtain ⟨portAddress, port, oldPort, subscribes⟩ :=
      sound.wired.port_of_connects old ⟨back, backInside, isSender⟩
    constructor
    · exact mem_replaced.mpr ⟨(saved.needs _).mpr ⟨isChanged, port,
        sound.wired.named_port oldPort, name, subscribes, other⟩, (Finset.mem_sort _).mpr isChanged⟩
    · rcases planned.mem_changed isChanged with ⟨inPorts, -⟩ | ⟨-, isOldConnector⟩
      · exact isPort inPorts
      · exact absurd isOldConnector (sound.apart ((sound.ports _).mpr ⟨_, oldPort.listed⟩))

/-- What a reload leaves of an object that is neither deleted nor changed. -/
structure Handler.Untouched (reenable : Finset String) (before after : Handler) : Prop where
  Name : after.Name = before.Name
  isConnector : after.isConnector = before.isConnector
  demands : after.demands = before.demands
  enabled : after.enabled = (before.enabled || decide (before.Name ∈ reenable))
  connections : after.SenderConnections.map (fun connection =>
      (connection.sender, connection.receiver)) =
    before.SenderConnections.map fun connection => (connection.sender, connection.receiver)

/-- What comes of a plan that is applied. -/
structure Applied (plan : Plan E) (before after : Concentrator) : Prop where
  sound : Sound plan.new_main_conf after
  untouched : ∀ {address handler}, before.heap address = some handler →
    handler.Name ∉ plan.delete_or_change → ∃ now, after.heap address = some now ∧
      handler.Untouched plan.reenable now
  demands : ∀ {name address port}, IsPort before name address port → name ∈ plan.changed →
    ∃ newAddress newPort, IsPort after name newAddress newPort ∧ newPort.demands = port.demands

/-- What the last loop makes of each object. -/
def reenabled (names : List String) (handler : Handler) : Handler :=
  if handler.Name ∈ names then { handler with enabled := true } else handler

theorem reenabled_switched (names : List String) (handler : Handler) :
    handler.Switched (reenabled names handler) := by
  unfold reenabled Handler.Switched
  split_ifs <;> rfl

theorem reenable_spec {stale : Nat → String → Prop} {bare : String → Prop}
    (wired : Wired stale bare datacon) {reenable : Finset String}
    (listed : ∀ name ∈ reenable, ∃ address, datacon.DataPorts name = some address) :
    reenable.sort.foldlM Concentrator.enableAgain datacon =
      .ok (datacon.mapHeap fun _ => reenabled reenable.sort) := by
  refine wired.foldlM_named (reenable.sort_nodup (· ≤ ·)) ?_ ?_
  · intro name member missing
    obtain ⟨address, isPort⟩ := listed name ((Finset.mem_sort _).mp member)
    cases missing.symm.trans ((wired.handlers name address).mpr (.inl isPort))
  · intro name member address handler found alive reached same foundNow
    rw [Concentrator.enableAgain, Concentrator.handlerAt_eq (same.IOHandlers ▸ found)]
    rfl

/-- What becomes of an object from where it is wired to its ports. -/
theorem finished_of_ready {added : List String} {ready connectors : Concentrator}
    (addedConnectors : ConnectorsAdded added ready connectors) {address : Nat} {handler : Handler}
    (used : address < ready.next) (alive : ready.heap address = some handler)
    (lookup : String → Option Nat) (done : List (String × Nat)) (reenable : Finset String) :
    ∃ now, ((connectors.heap address).map (readdressed lookup done address)).map
        (reenabled reenable.sort) = some now ∧ handler.Untouched reenable now := by
  have related := addedConnectors.heap address used
  rw [alive] at related
  generalize connectors.heap address = connected at related
  cases related with
  | @some _ other resubscribed =>
      obtain ⟨subscribers, rfl⟩ :
          ∃ subscribers, other = { handler with Subscribers := subscribers } := ⟨_, resubscribed⟩
      have connections : ((handler.SenderConnections.map
          (SenderConnection.readdressed lookup done address)).map fun connection =>
            (connection.sender, connection.receiver)) =
          handler.SenderConnections.map fun connection =>
            (connection.sender, connection.receiver) := by
        simp [SenderConnection.readdressed_kept]
      refine ⟨_, rfl, ?_⟩
      unfold reenabled readdressed
      by_cases member : handler.Name ∈ reenable
      · rw [if_pos ((Finset.mem_sort _).mpr member)]
        exact ⟨rfl, rfl, rfl, by simp [member], connections⟩
      · rw [if_neg fun inside => member ((Finset.mem_sort _).mp inside)]
        exact ⟨rfl, rfl, rfl, by simp [member], connections⟩

theorem Sound.untouched (sound : Sound old datacon) (planned : Planned old plan changes datacon)
    (gone : Removed plan.delete_or_change datacon removed) {ports : Concentrator}
    (added : PortsAdded (names plan.Ports) removed ports) {address : Nat} {handler : Handler}
    (alive : datacon.heap address = some handler) (stays : handler.Name ∉ plan.delete_or_change) :
    ∃ now, (ports.heap address).map (restored backup plan.changed.sort) = some now ∧
      handler.Untouched ∅ now := by
  have used : address < removed.next := gone.next ▸ (sound.wired.owned alive).1
  have notChanged : handler.Name ∉ plan.changed.sort := by
    rw [Finset.mem_sort]
    exact fun isChanged => stays (planned.changed_subset isChanged)
  refine ⟨handler.trimmed plan.delete_or_change.sort, ?_, rfl, rfl, rfl, ?_, rfl⟩
  · rw [added.heap address used, gone.alive alive stays]
    exact congrArg some (if_neg notChanged)
  · simp [Handler.trimmed]

theorem Handler.Untouched.trans {reenable : Finset String} {one two three : Handler}
    (first : one.Untouched ∅ two) (second : two.Untouched reenable three) :
    one.Untouched reenable three where
  Name := second.Name.trans first.Name
  isConnector := second.isConnector.trans first.isConnector
  demands := second.demands.trans first.demands
  enabled := by
    rw [second.enabled, first.enabled, first.Name]
    simp
  connections := second.connections.trans first.connections

/-- The ports that are registered are those of the new configuration. -/
theorem Sound.mem_ports_iff (sound : Sound old datacon)
    (planned : Planned old plan changes datacon)
    (gone : Removed plan.delete_or_change datacon removed) {ready : Concentrator}
    (portsReady : PortsReady plan removed ready) (name : String) :
    name ∈ names plan.new_main_conf.Ports ↔ ∃ address, ready.DataPorts name = some address := by
  by_cases inPorts : name ∈ names plan.Ports
  · exact iff_of_true (planned.mem_Ports.mp inPorts).1 (portsReady.new name inPorts)
  · rw [portsReady.old name inPorts]
    constructor
    · intro isNew
      have isOld : name ∈ names old.Ports := by
        by_contra notOld
        have isCreated := (planned.found.created name).mpr (.inl ⟨isNew, notOld⟩)
        exact inPorts (planned.mem_Ports.mpr ⟨isNew, .inl isCreated⟩)
      have stays := planned.stays sound (.inl ⟨isNew, isOld⟩) fun isChanged =>
        inPorts (planned.mem_Ports.mpr ⟨isNew, .inr isChanged⟩)
      rw [(gone.kept name stays).2.1]
      exact (sound.ports name).mp isOld
    · rintro ⟨address, listed⟩
      by_cases isRemoved : name ∈ plan.delete_or_change
      · cases (gone.gone name isRemoved).2.1.symm.trans listed
      · refine planned.port_stays ((sound.ports name).mpr ⟨address, ?_⟩) isRemoved
        rw [← (gone.kept name isRemoved).2.1]
        exact listed

/-- The connectors that are registered are those of the new configuration. -/
theorem Sound.mem_connectors_iff (sound : Sound old datacon)
    (planned : Planned old plan changes datacon)
    (gone : Removed plan.delete_or_change datacon removed) {ready connectors : Concentrator}
    (portsReady : PortsReady plan removed ready)
    (added : ConnectorsAdded (names plan.Connectors) ready connectors) (name : String) :
    name ∈ names plan.new_main_conf.Connectors ↔
      ∃ address, connectors.DataConnectors name = some address := by
  by_cases inConnectors : name ∈ names plan.Connectors
  · obtain ⟨address, -, -, listed⟩ := added.new name inConnectors
    exact iff_of_true (planned.mem_Connectors.mp inConnectors).1 ⟨address, listed⟩
  · rw [added.old name inConnectors, portsReady.DataConnectors]
    constructor
    · intro isNew
      have isOld : name ∈ names old.Connectors := by
        by_contra notOld
        have isCreated := (planned.found.created name).mpr (.inr ⟨isNew, notOld⟩)
        exact inConnectors (planned.mem_Connectors.mpr ⟨isNew, .inl isCreated⟩)
      have stays := planned.stays sound (.inr ⟨isNew, isOld⟩) fun isChanged =>
        inConnectors (planned.mem_Connectors.mpr ⟨isNew, .inr isChanged⟩)
      rw [(gone.kept name stays).2.2]
      exact (sound.connectors name).mp isOld
    · rintro ⟨address, listed⟩
      by_cases isRemoved : name ∈ plan.delete_or_change
      · cases (gone.gone name isRemoved).2.2.symm.trans listed
      · refine planned.connector_stays ((sound.connectors name).mpr ⟨address, ?_⟩) isRemoved
        rw [← (gone.kept name isRemoved).2.2]
        exact listed

/-- **A plan is applied** without following a dangling pointer, and what comes of it. -/
theorem apply_spec (sound : Sound old datacon) (planned : Planned old plan changes datacon) :
    ∃ after, apply plan datacon = .ok after ∧ Applied plan datacon after := by
  obtain ⟨unsubscribed, ⟨erased, backup⟩, unsubscribes, takes, gone, saved⟩ :=
    sound.remove_spec planned
  dsimp only at gone saved
  generalize removed_eq : erased.free backup.to_delete = removed at gone
  obtain ⟨addedPorts, restores, wiredReady⟩ := sound.ports_spec planned gone saved
  have portsReady := @Sound.portsReady _ _ _ _ _ _ backup sound planned gone _ addedPorts
  generalize ports_eq : removed.processPorts plan.reading plan.Ports = ports at *
  obtain ⟨connectors, processed, addedConnectors, replaces, wiredReplaced⟩ :=
    sound.connectors_spec planned gone saved portsReady wiredReady
  have isPort := sound.mem_ports_iff planned gone portsReady
  rw [← addedConnectors.DataPorts] at isPort
  have isConnector := sound.mem_connectors_iff planned gone portsReady addedConnectors
  have enables := reenable_spec wiredReplaced fun name member => by
    obtain ⟨stays, address, listed⟩ := planned.reenable name member
    exact (isPort name).mp (planned.port_stays ((sound.ports name).mpr ⟨address, listed⟩) stays)
  have result : apply plan datacon = .ok ((connectors.mapHeap (readdressed connectors.IOHandlers
      (replaced backup plan.changed.sort))).mapHeap fun _ => reenabled plan.reenable.sort) := by
    unfold apply
    rw [unsubscribes]
    dsimp only [bind, Except.bind]
    rw [takes]
    dsimp only
    rw [removed_eq, ports_eq, restores]
    dsimp only
    rw [processed]
    dsimp only
    rw [replaces]
    exact enables
  refine ⟨_, result, Sound.rewritten ⟨wiredReplaced, isPort, isConnector⟩ (.map fun _ => ?_), ?_,
    ?_⟩
  · exact (reenabled_switched _ _).sameWiring
  · intro address handler alive stays
    obtain ⟨now, found, first⟩ := sound.untouched planned gone addedPorts alive stays
    have used : address < ports.next :=
      ((sound.wired.owned alive).1.trans_eq gone.next.symm).trans_le addedPorts.next
    obtain ⟨last, lastFound, second⟩ := finished_of_ready addedConnectors used found
      connectors.IOHandlers (replaced backup plan.changed.sort) plan.reenable
    exact ⟨last, lastFound, first.trans second⟩
  · intro name address port registered isChanged
    have inPorts : name ∈ names plan.Ports := by
      refine (planned.mem_changed isChanged).elim And.left fun both => absurd both.2 ?_
      exact sound.apart ((sound.ports name).mpr ⟨address, registered.listed⟩)
    obtain ⟨newAddress, -, used, listed, alive⟩ := addedPorts.new name inPorts
    have restoredNow := congrArg (Option.map (restored backup plan.changed.sort)) alive
    obtain ⟨last, lastFound, second⟩ := finished_of_ready addedConnectors used restoredNow
      connectors.IOHandlers (replaced backup plan.changed.sort) plan.reenable
    refine ⟨newAddress, last, ⟨?_, lastFound⟩, second.demands.trans ?_⟩
    · exact (congrFun addedConnectors.DataPorts name).trans listed
    · have old := (saved.old name isChanged port (sound.wired.named_port registered)).2
      rw [restored, if_pos ((Finset.mem_sort _).mpr isChanged), Handler.restore]
      dsimp only
      rw [(Handler.foldl_subscribe_kept _ _).2.2.2.2, old]
      exact Finset.empty_union port.demands

end Applying

/-! ## Runs -/

section Runs

variable {E : Type} [Inhabited E] [DecidableEq E]

/-- What a start, reloads of valid configurations and events in between lead to. Events enable and
disable objects, and bring them into demand. -/
inductive Reachable : System E → Prop where
  | start {reading : Reading E} {main_conf : MainConf E} {datacon : Concentrator}
    (valid : main_conf.Valid reading) (started : start reading main_conf = .ok datacon) :
    Reachable { main_conf, datacon }
  | event {system : System E} {datacon : Concentrator} (reached : Reachable system)
    (event : Rewritten (fun _ => Handler.SameWiring) system.datacon datacon) :
    Reachable { system with datacon }
  | reload {system next : System E} {request : Request E} (reached : Reachable system)
    (valid : request.new_main_conf.Valid request.reading)
    (reloads : system.reload request = .ok next) : Reachable next
  | parked {system next : System E} (reached : Reachable system)
    (parks : system.parked = .ok next) : Reachable next

theorem wired_empty (stale : Nat → String → Prop) (bare : String → Prop) :
    Wired stale bare {} where
  handlers _ _ := by simp
  port listed := by cases listed
  connector listed := by cases listed
  owned alive := by cases alive
  both registered := by cases registered.listed
  connected registered := by cases registered.listed
  subscribed registered := by cases registered.listed

omit [Inhabited E] [DecidableEq E] in
/-- **A start** follows no dangling pointer. -/
theorem start_spec {reading : Reading E} {main_conf : MainConf E}
    (valid : main_conf.Valid reading) :
    ∃ datacon, start reading main_conf = .ok datacon ∧ Sound main_conf datacon := by
  obtain ⟨wired, added⟩ := @Wired.processPorts E reading _ _ {} main_conf.Ports
    (wired_empty (fun _ _ => False) fun _ => False) valid.namedPorts valid.portComplete
    valid.distinctPorts (fun _ _ => rfl) fun _ _ _ _ _ _ registered => by
      cases registered.listed
  unfold start
  generalize ({} : Concentrator).processPorts reading main_conf.Ports = ports at *
  have isPort : ∀ name, name ∈ names main_conf.Ports ↔
      ∃ address, ports.DataPorts name = some address := by
    intro name
    by_cases member : name ∈ names main_conf.Ports
    · obtain ⟨address, -, -, listed, -⟩ := added.new name member
      exact iff_of_true member ⟨address, listed⟩
    · refine iff_of_false member ?_
      rw [added.old name member]
      rintro ⟨address, listed⟩
      cases listed
  obtain ⟨datacon, processed, wiredLast, addedLast⟩ := @Wired.processConnectors E reading _ ports
    main_conf.Connectors wired valid.namedConnectors valid.connectorComplete
    valid.distinctConnectors
    (fun name member => by
      rw [wired.handler_eq_none_iff, added.DataConnectors]
      refine ⟨Option.eq_none_iff_forall_not_mem.mpr fun address listed => ?_, rfl⟩
      exact valid.apart name ((isPort name).mpr ⟨address, listed⟩) member)
    (fun object member connection inside port isEnd => by
      rw [added.DataConnectors]
      exact ⟨valid.portsOnly object member connection inside port isEnd, rfl⟩)
  refine ⟨datacon, processed, wiredLast, fun name => ?_, fun name => ?_⟩
  · rw [addedLast.DataPorts]
    exact isPort name
  · by_cases member : name ∈ names main_conf.Connectors
    · obtain ⟨address, -, -, listed⟩ := addedLast.new name member
      exact iff_of_true member ⟨address, listed⟩
    · refine iff_of_false member ?_
      rw [addedLast.old name member, added.DataConnectors]
      rintro ⟨address, listed⟩
      cases listed

/-- What holds of every system that is reached. -/
structure SystemSound (system : System E) : Prop where
  namedPorts : ∀ object ∈ system.main_conf.Ports, object.Name ≠ none
  namedConnectors : ∀ object ∈ system.main_conf.Connectors, object.Name ≠ none
  sound : Sound system.main_conf system.datacon
  planned : ∀ plan, system.waiting = some plan →
    ∃ changes, Planned system.main_conf plan changes system.datacon

/-- **A reload** up to where it parks the threads. -/
theorem SystemSound.reload {system : System E} (holds : SystemSound system) {request : Request E}
    (valid : request.new_main_conf.Valid request.reading) :
    ∃ next, system.reload request = .ok next ∧ SystemSound next := by
  unfold System.reload
  cases waiting : system.waiting with
  | some plan => exact ⟨system, rfl, holds⟩
  | none =>
      obtain ⟨prepared, prepares, well⟩ :=
        prepare_spec holds.sound holds.namedPorts holds.namedConnectors valid
      dsimp only
      rw [prepares]
      cases well with
      | refused => exact ⟨system, rfl, holds⟩
      | finished sound =>
          refine ⟨_, rfl, valid.namedPorts, valid.namedConnectors, sound, fun plan isWaiting => ?_⟩
          cases isWaiting
      | @waiting plan disabled changes target disables planned =>
          refine ⟨_, rfl, holds.namedPorts, holds.namedConnectors, ?_, fun other isWaiting => ?_⟩
          · exact holds.sound.rewritten
              (disables.rewritten.imp fun _ _ => Handler.Switched.sameWiring)
          · obtain rfl := Option.some_inj.mp isWaiting
            exact ⟨changes, planned⟩

omit [Inhabited E] [DecidableEq E] in
/-- **A reload** from where it has parked the threads. -/
theorem SystemSound.parked {system : System E} (holds : SystemSound system) :
    ∃ next, system.parked = .ok next ∧ SystemSound next := by
  unfold System.parked
  cases waiting : system.waiting with
  | none => exact ⟨system, rfl, holds⟩
  | some plan =>
      obtain ⟨changes, planned⟩ := holds.planned plan waiting
      obtain ⟨after, applies, applied⟩ := apply_spec holds.sound planned
      dsimp only
      rw [applies]
      refine ⟨_, rfl, planned.valid.namedPorts, planned.valid.namedConnectors, applied.sound, ?_⟩
      intro other isWaiting
      cases isWaiting

theorem Reachable.sound {system : System E} (reached : Reachable system) : SystemSound system := by
  induction reached with
  | start valid started =>
      obtain ⟨datacon, starts, sound⟩ := start_spec valid
      obtain rfl := Except.ok.inj (starts.symm.trans started)
      refine ⟨valid.namedPorts, valid.namedConnectors, sound, fun plan isWaiting => ?_⟩
      cases isWaiting
  | event reached event ih =>
      refine ⟨ih.namedPorts, ih.namedConnectors, ih.sound.rewritten event, fun plan isWaiting => ?_⟩
      obtain ⟨changes, planned⟩ := ih.planned plan isWaiting
      exact ⟨changes, planned.rewritten event⟩
  | reload reached valid reloads ih =>
      obtain ⟨next, result, holds⟩ := ih.reload valid
      obtain rfl := Except.ok.inj (result.symm.trans reloads)
      exact holds
  | parked reached parks ih =>
      obtain ⟨next, result, holds⟩ := ih.parked
      obtain rfl := Except.ok.inj (result.symm.trans parks)
      exact holds

/-- Only who has it in demand may be other. -/
def Handler.Demanded (before after : Handler) : Prop :=
  after = { before with demands := after.demands }

omit [Inhabited E] [DecidableEq E] in
theorem apply_of_parked {system next : System E} {plan : Plan E}
    (waiting : system.waiting = some plan) (parks : system.parked = .ok next) :
    apply plan system.datacon = .ok next.datacon := by
  rw [System.parked, waiting] at parks
  dsimp only at parks
  cases applies : apply plan system.datacon with
  | error fault =>
      rw [applies] at parks
      cases parks
  | ok datacon =>
      rw [applies] at parks
      obtain rfl := Except.ok.inj parks
      rfl

/-- What is disabled when a reload waits. -/
theorem disabled_of_reload {system next : System E} {request : Request E} {plan : Plan E}
    (holds : SystemSound system) (idle : system.waiting = none)
    (valid : request.new_main_conf.Valid request.reading)
    (reloads : system.reload request = .ok next) (waiting : next.waiting = some plan) :
    Disabled plan.delete_or_change system.datacon (next.datacon, plan.reenable) := by
  obtain ⟨prepared, prepares, well⟩ :=
    prepare_spec holds.sound holds.namedPorts holds.namedConnectors valid
  rw [System.reload, idle] at reloads
  dsimp only at reloads
  rw [prepares] at reloads
  cases well with
  | refused =>
      obtain rfl := Except.ok.inj reloads
      cases idle.symm.trans waiting
  | finished sound =>
      obtain rfl := Except.ok.inj reloads
      cases waiting
  | waiting target disables planned =>
      obtain rfl := Except.ok.inj reloads
      obtain rfl := Option.some_inj.mp waiting
      exact disables

end Runs

/-! ## A port is changed -/

def entry (name : String) (type : Nat) : Object Nat where
  Name := some name
  type := type
  Library := 0
  ConfOverrides := 0
  others := 0

/-- Two ports and a connector; the first port has this type. -/
def twoPorts (type : Nat) : MainConf Nat where
  Ports := [entry "A" type, entry "B" 0]
  Connectors := [entry "C" 0]

def connected : Reading Nat where
  portComplete _ := true
  connectorComplete _ := true
  connectionsOf _ := [("A", "B")]

def otherType : Request Nat where
  newFiles := []
  old_file_confs := []
  new_main_conf := twoPorts 1
  reading := connected

theorem twoPorts_valid (type : Nat) : (twoPorts type).Valid connected where
  namedPorts := by simp [twoPorts, entry]
  namedConnectors := by simp [twoPorts, entry]
  portComplete _ _ := rfl
  connectorComplete _ _ := rfl
  distinctPorts := by simp [twoPorts, entry, names]
  distinctConnectors := by simp [twoPorts, entry, names]
  apart := by simp [twoPorts, entry, names]
  portsOnly := by simp [twoPorts, entry, names, connected]

theorem changes_twoPorts :
    let Ports := findChangedConfs otherType.newFiles otherType.old_file_confs (twoPorts 0).Ports
      otherType.new_main_conf.Ports {}
    (findChangedConfs otherType.newFiles Ports.old_file_confs (twoPorts 0).Connectors
      otherType.new_main_conf.Connectors Ports.changes).changes = ⟨∅, {"A"}, ∅⟩ :=
  rfl

theorem prepare_twoPorts {datacon : Concentrator} (sound : Sound (twoPorts 0) datacon) :
    ∃ plan disabled, prepare otherType (twoPorts 0) datacon = .ok (.waiting plan disabled) ∧
      plan.changed = {"A"} ∧ plan.delete_or_change = {"A"} := by
  have valid := twoPorts_valid 0
  have found := @found_spec _ _ _ (twoPorts 0) otherType.new_main_conf _ (twoPorts_valid 1)
    valid.namedPorts valid.namedConnectors otherType.newFiles otherType.old_file_confs
    (findChangedConfs otherType.newFiles otherType.old_file_confs (twoPorts 0).Ports
      otherType.new_main_conf.Ports {}).old_file_confs
  have same := found.withoutMissing sound
  have changes := changes_twoPorts
  dsimp only at changes same
  rw [changes] at same
  have registered : ∀ name ∈ ({"A"} : Finset String), ∃ address handler,
      datacon.IOHandlers name = some address ∧ datacon.heap address = some handler := by
    intro name member
    obtain rfl := Finset.mem_singleton.mp member
    exact sound.registered (.inl List.mem_cons_self)
  obtain ⟨state, disables, -⟩ := sound.wired.disable_spec registered
  unfold prepare
  dsimp only
  rw [if_neg (by simp [otherType, twoPorts]), if_neg (by rw [changes]; simp), changes, same]
  simp only [Concentrator.leavesDangling, Finset.sort_empty, Finset.empty_union]
  change ∃ plan disabled, (List.foldlM _ _ _ >>= _) =
    Except.ok (Prepared.waiting plan disabled) ∧ _
  rw [disables]
  exact ⟨_, _, rfl, rfl, rfl⟩

/-- A run in which the type of a port is changed. -/
theorem run_twoPorts : ∃ system waits next : System Nat, ∃ plan,
    Reachable system ∧ system.main_conf = twoPorts 0 ∧ system.waiting = none ∧
      system.reload otherType = .ok waits ∧ waits.waiting = some plan ∧
      plan.changed = {"A"} ∧ plan.delete_or_change = {"A"} ∧ waits.parked = .ok next ∧
      next.main_conf = twoPorts 1 := by
  obtain ⟨datacon, started, sound⟩ := start_spec (twoPorts_valid 0)
  have reached := Reachable.start (twoPorts_valid 0) started
  obtain ⟨plan, disabled, prepares, changed, removed⟩ := prepare_twoPorts sound
  have reloads : System.reload { main_conf := twoPorts 0, datacon } otherType =
      .ok { main_conf := twoPorts 0, datacon := disabled, waiting := some plan } := by
    rw [System.reload]
    dsimp only
    rw [prepares]
    rfl
  have target : plan.new_main_conf = twoPorts 1 := by
    obtain ⟨prepared, result, well⟩ := @prepare_spec _ _ _ _ _ otherType sound
      (twoPorts_valid 0).namedPorts (twoPorts_valid 0).namedConnectors (twoPorts_valid 1)
    obtain rfl := Except.ok.inj (result.symm.trans prepares)
    cases well with
    | waiting target disables planned => exact target
  obtain ⟨next, parks, holds⟩ := (reached.reload (twoPorts_valid 1) reloads).sound.parked
  refine ⟨_, _, next, plan, reached, rfl, rfl, reloads, rfl, changed, removed, parks, ?_⟩
  rw [System.parked] at parks
  dsimp only at parks
  cases applies : apply plan disabled with
  | error fault =>
      rw [applies] at parks
      cases parks
  | ok after =>
      rw [applies] at parks
      obtain rfl := Except.ok.inj parks
      exact target

/-! ## Every run -/

section Every

variable {E : Type} [Inhabited E] [DecidableEq E]

/-- **In every run**, whatever is loaded again and when, no pointer to a deleted object is
followed and no reload fails terminally; the objects of the configuration are those that are
registered, and each connection and each subscriber leads to one of them. -/
theorem reloads_sound {system : System E} (reached : Reachable system) :
    Sound system.main_conf system.datacon ∧
      (∀ request : Request E, request.new_main_conf.Valid request.reading →
        ∃ next, system.reload request = .ok next) ∧
      ∃ next, system.parked = .ok next := by
  refine ⟨reached.sound.sound, fun request valid => ?_, ?_⟩
  · obtain ⟨next, result, -⟩ := reached.sound.reload valid
    exact ⟨next, result⟩
  · obtain ⟨next, result, -⟩ := reached.sound.parked
    exact ⟨next, result⟩

theorem reloads_sound_twoPorts : ∃ system : System Nat, system.main_conf = twoPorts 1 ∧
    Sound system.main_conf system.datacon ∧
      (∀ request : Request Nat, request.new_main_conf.Valid request.reading →
        ∃ next, system.reload request = .ok next) ∧
      ∃ next, system.parked = .ok next := by
  obtain ⟨system, waits, next, plan, reached, -, -, reloads, -, -, -, parks, target⟩ := run_twoPorts
  exact ⟨next, target, reloads_sound ((reached.reload (twoPorts_valid 1) reloads).parked parks)⟩

/-- **What a reload does not concern** stays at its address, with the same connections, and is
enabled if and only if it was. A port that is changed keeps the demands that it has when the
threads are parked. -/
theorem reload_keeps {system waits next : System E} {request : Request E} {plan : Plan E}
    {datacon : Concentrator} (reached : Reachable system) (idle : system.waiting = none)
    (valid : request.new_main_conf.Valid request.reading)
    (reloads : system.reload request = .ok waits) (waiting : waits.waiting = some plan)
    (event : Rewritten (fun _ => Handler.Demanded) waits.datacon datacon)
    (parks : System.parked { waits with datacon } = .ok next) :
    (∀ address handler, system.datacon.heap address = some handler →
      handler.Name ∉ plan.delete_or_change → ∃ now, next.datacon.heap address = some now ∧
        now.Name = handler.Name ∧ now.enabled = handler.enabled ∧
          now.SenderConnections.map (fun connection => (connection.sender, connection.receiver)) =
            handler.SenderConnections.map fun connection =>
              (connection.sender, connection.receiver)) ∧
      ∀ name address port, IsPort datacon name address port → name ∈ plan.changed →
        ∃ newAddress newPort, IsPort next.datacon name newAddress newPort ∧
          newPort.demands = port.demands := by
  have holds := reached.sound
  have disabled := disabled_of_reload holds idle valid reloads waiting
  obtain ⟨between, result, holdsWaiting⟩ := holds.reload valid
  obtain rfl := Except.ok.inj (result.symm.trans reloads)
  obtain ⟨changes, planned⟩ := holdsWaiting.planned plan waiting
  have rewritten : Rewritten (fun _ => Handler.SameWiring) between.datacon datacon :=
    event.imp fun _ _ demanded => by
      unfold Handler.Demanded at demanded
      unfold Handler.SameWiring
      rw [demanded]
  obtain ⟨after, applies, applied⟩ :=
    apply_spec (holdsWaiting.sound.rewritten rewritten) (planned.rewritten rewritten)
  have sameAfter := @apply_of_parked _ { between with datacon } _ _ waiting parks
  obtain rfl := Except.ok.inj (applies.symm.trans sameAfter)
  refine ⟨fun address handler alive stays => ?_, fun name address port => applied.demands⟩
  obtain ⟨quiet, quietFound, switched⟩ := disabled.rewritten.alive alive
  obtain ⟨waited, found, demanded⟩ := event.alive quietFound
  have named : waited.Name = handler.Name := by rw [demanded, switched]
  have enabled : waited.enabled = quiet.enabled := by rw [demanded]
  have connections : waited.SenderConnections = handler.SenderConnections := by
    rw [demanded, switched]
  obtain ⟨now, foundNow, untouched⟩ := applied.untouched found (named ▸ stays)
  refine ⟨now, foundNow, untouched.Name.trans named, ?_, connections ▸ untouched.connections⟩
  rw [untouched.enabled, enabled, named]
  cases was : handler.enabled with
  | true =>
      cases isNow : quiet.enabled with
      | true => rfl
      | false => exact decide_eq_true (disabled.staysEnabled alive stays was quietFound isNow)
  | false =>
      rw [disabled.staysDisabled alive was quietFound, Bool.false_or, decide_eq_false_iff_not]
      intro member
      obtain ⟨-, portAddress, port, isPort, portEnabled⟩ := disabled.reenable _ member
      have same := (holds.sound.wired.handlers _ _).mpr (.inl isPort.listed)
      rw [(holds.sound.wired.owned alive).2] at same
      obtain rfl := Option.some_inj.mp same
      obtain rfl := Option.some_inj.mp (alive.symm.trans isPort.alive)
      cases was.symm.trans portEnabled

/-- Port B is left as it was, and port A keeps its demands. -/
theorem reload_keeps_twoPorts : ∃ system waits next : System Nat,
    system.main_conf = twoPorts 0 ∧ next.main_conf = twoPorts 1 ∧
    (∀ address handler, system.datacon.heap address = some handler → handler.Name ≠ "A" →
      ∃ now, next.datacon.heap address = some now ∧ now.Name = handler.Name ∧
        now.enabled = handler.enabled ∧
          now.SenderConnections.map (fun connection => (connection.sender, connection.receiver)) =
            handler.SenderConnections.map fun connection =>
              (connection.sender, connection.receiver)) ∧
      ∀ address port, IsPort waits.datacon "A" address port →
        ∃ newAddress newPort, IsPort next.datacon "A" newAddress newPort ∧
          newPort.demands = port.demands := by
  obtain ⟨system, waits, next, plan, reached, isOld, idle, reloads, waiting, changed, removed,
    parks, target⟩ := run_twoPorts
  obtain ⟨untouched, demands⟩ := reload_keeps reached idle (twoPorts_valid 1) reloads waiting
    (@Rewritten.refl (fun _ => Handler.Demanded) (fun _ _ => rfl) waits.datacon) parks
  refine ⟨system, waits, next, isOld, target, fun address handler alive other => ?_,
    fun address port isPort => demands "A" address port isPort ?_⟩
  · refine untouched address handler alive ?_
    rw [removed]
    exact fun member => other (Finset.mem_singleton.mp member)
  · rw [changed]
    exact Finset.mem_singleton_self "A"

end Every

end OpenDataCon.Configuration
