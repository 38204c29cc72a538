import Moleculer.Events.Emit

/-! Which subscriptions make every balanced event arrive exactly once. -/

namespace Moleculer.Events

open Base Cluster

namespace Network

/-- An endpoint of a host for a service, as a node sees it. -/
def Subscribed (net : Network) (viewer host : String) (key : ListKey) (service : String) : Prop :=
  ∃ list, (net.catalog viewer).get key = some list ∧
    ∃ ep ∈ list.endpoints, ep.node.id = some host ∧ ep.service.fullName = service

/-- Every node sees what the others have registered, and everything is available. -/
structure Consistent (net : Network) : Prop where
  available : ∀ node ∈ net.nodes, ∀ key list, (net.catalog node).get key = some list →
    list.AllAvailable
  noted : ∀ node ∈ net.nodes, ∀ key list, (net.catalog node).get key = some list →
    list.LocalsNoted
  locals : ∀ node ∈ net.nodes, ∀ key list, (net.catalog node).get key = some list →
    ∀ ep ∈ list.endpoints, ep.ref ∈ list.localEndpoints ↔ ep.node.id = some node
  placed : ∀ node ∈ net.nodes, ∀ key list, (net.catalog node).get key = some list →
    ∀ ep ∈ list.endpoints, ∃ host ∈ net.nodes, ep.node.id = some host
  agree : ∀ viewer ∈ net.nodes, ∀ host ∈ net.nodes, ∀ key service,
    net.Subscribed viewer host key service ↔ net.Subscribed host host key service

variable {net : Network} {strategies : Strategies} {eventName sender : String}
  {groups : Option (List String)}

/-- The candidates for a list on the sender. -/
def candidates (net : Network) (sender : String) (key : ListKey) : List (Endpoint EventInfo) :=
  ((net.catalog sender).get key).elim [] (·.candidates (net.preferLocal sender))

/-- The choice for a list on the sender. -/
def choice (net : Network) (strategies : Strategies) (sender : String) (key : ListKey) :
    Option (Endpoint EventInfo) :=
  (strategies sender key).choose (net.candidates sender key)

variable {ep : Endpoint EventInfo} {key : ListKey} {packet : EventPacket}

theorem mem_of_mem_candidates (member : ep ∈ net.candidates sender key) :
    ∃ list, (net.catalog sender).get key = some list ∧ ep ∈ list.endpoints := by
  unfold candidates at member
  cases found : (net.catalog sender).get key with
  | none => simp [found] at member
  | some list =>
    rw [found, Option.elim_some, EndpointList.candidates] at member
    refine ⟨list, rfl, ?_⟩
    split at member
    · exact (List.mem_filter.mp member).1
    · exact member

theorem mem_getBalancedEndpoints (consistent : net.Consistent) (known : sender ∈ net.nodes)
    (key : ListKey) (ep : Endpoint EventInfo) :
    (key, ep) ∈ net.getBalancedEndpoints strategies eventName sender groups ↔
      net.wants eventName groups key = true ∧ net.choice strategies sender key = some ep := by
  unfold getBalancedEndpoints
  rw [List.mem_filterMap]
  constructor
  · rintro ⟨⟨other, list⟩, entry, picked⟩
    have found := OrderedMap.mem_entries_iff.mp entry
    dsimp only at picked
    split at picked
    · rename_i wanted
      rw [EndpointList.next_eq (consistent.noted sender known other list found)
        (consistent.available sender known other list found)] at picked
      obtain ⟨chosen, filtered, same⟩ := Option.map_eq_some_iff.mp picked
      obtain ⟨rfl, rfl⟩ := Prod.mk.inj same
      refine ⟨wanted, ?_⟩
      rw [choice, candidates, found]
      exact (Option.filter_eq_some_iff.mp filtered).1
    · cases picked
  · rintro ⟨wanted, chosen⟩
    have member := Strategy.mem_of_choose chosen
    obtain ⟨list, found, inside⟩ := mem_of_mem_candidates member
    refine ⟨(key, list), OrderedMap.mem_entries_iff.mpr found, ?_⟩
    rw [choice, candidates, found, Option.elim_some] at chosen
    dsimp only
    rw [if_pos wanted, EndpointList.next_eq (consistent.noted sender known key list found)
      (consistent.available sender known key list found), chosen]
    simp [consistent.available sender known key list found ep inside]

theorem nodup_getBalancedEndpoints (net : Network) (strategies : Strategies)
    (eventName sender : String) (groups : Option (List String)) :
    ((net.getBalancedEndpoints strategies eventName sender groups).map Prod.fst).Nodup := by
  apply OrderedMap.nodup_filterMap
  rintro ⟨key, list⟩ picked same
  dsimp only at same
  split at same
  · obtain ⟨ep, _, rfl⟩ := Option.map_eq_some_iff.mp same
    rfl
  · cases same

theorem countP_localCalls (consistent : net.Consistent) (known : sender ∈ net.nodes)
    (key : ListKey) :
    (net.localCalls strategies eventName sender groups).countP (fun call => call.key = key) =
      if net.wants eventName groups key = true ∧
        ∃ ep, net.choice strategies sender key = some ep ∧ ep.node.id = some sender
      then 1 else 0 := by
  have distinct : ((net.localCalls strategies eventName sender groups).map (·.key)).Nodup := by
    rw [localCalls, List.map_map]
    exact (nodup_getBalancedEndpoints net strategies eventName sender groups).sublist
      (List.filter_sublist.map Prod.fst)
  rw [countP_key distinct]
  congr 1
  rw [localCalls, List.map_map, eq_iff_iff, List.mem_map]
  constructor
  · rintro ⟨⟨other, ep⟩, member, rfl⟩
    obtain ⟨picked, here⟩ := List.mem_filter.mp member
    obtain ⟨wanted, chosen⟩ := (mem_getBalancedEndpoints consistent known _ _).mp picked
    exact ⟨wanted, ep, chosen, by simpa using here⟩
  · rintro ⟨wanted, ep, chosen, here⟩
    refine ⟨(key, ep), List.mem_filter.mpr ⟨?_, by simpa using here⟩, rfl⟩
    exact (mem_getBalancedEndpoints consistent known _ _).mpr ⟨wanted, chosen⟩

theorem mem_addGroups (sender : String) (picked : List (ListKey × Endpoint EventInfo))
    (grouped : OrderedMap NodeID (List String)) (target : NodeID) (group : String) :
    group ∈ ((picked.foldl (addGroup sender) grouped).get target).getD [] ↔
      group ∈ (grouped.get target).getD [] ∨
        ∃ entry ∈ picked, entry.2.node.id = target ∧ target ≠ some sender ∧ entry.1.2 = group := by
  induction picked generalizing grouped with
  | nil => simp
  | cons first rest ih =>
    rw [List.foldl_cons, ih, addGroup, List.exists_mem_cons_iff]
    split
    · -- A local choice is in no packet.
      rename_i here
      have skipped : ¬ (first.2.node.id = target ∧ target ≠ some sender ∧ first.1.2 = group) := by
        rintro ⟨rfl, away, _⟩
        exact away here
      simp only [skipped, false_or]
    · rename_i away
      rw [OrderedMap.get_set]
      by_cases same : target = first.2.node.id
      · subst same
        simp only [if_true, Option.getD_some, List.mem_append, List.mem_singleton, true_and, ne_eq,
          away, not_false_eq_true]
        rw [or_assoc, eq_comm]
      · have other : ¬ first.2.node.id = target := fun equal => same equal.symm
        simp only [if_neg same, other, false_and, false_or]

theorem addGroups_ne_nil (picked : List (ListKey × Endpoint EventInfo))
    {grouped : OrderedMap NodeID (List String)}
    (start : ∀ target names, grouped.get target = some names → names ≠ [])
    {target : NodeID} {names : List String}
    (found : (picked.foldl (addGroup sender) grouped).get target = some names) : names ≠ [] := by
  induction picked generalizing grouped with
  | nil => exact start target names found
  | cons first rest ih =>
    refine ih (fun other others stored => ?_) found
    rw [addGroup] at stored
    split at stored
    · exact start other others stored
    · rw [OrderedMap.get_set] at stored
      split at stored
      · cases stored
        simp
      · exact start other others stored

theorem mem_packets (consistent : net.Consistent) (known : sender ∈ net.nodes)
    (sent : packet ∈ net.packets strategies eventName sender groups) :
    packet.groups ≠ [] ∧ ∀ group, group ∈ packet.groups ↔ packet.target ≠ some sender ∧
      ∃ key ep, net.wants eventName groups key = true ∧
        net.choice strategies sender key = some ep ∧ ep.node.id = packet.target ∧
        key.2 = group := by
  obtain ⟨⟨target, names⟩, entry, rfl⟩ := List.mem_map.mp sent
  have found := OrderedMap.mem_entries_iff.mp entry
  refine ⟨addGroups_ne_nil _ (fun _ _ stored => by cases stored) found, fun group => ?_⟩
  have members := mem_addGroups sender
    (net.getBalancedEndpoints strategies eventName sender groups) .empty target group
  rw [found, Option.getD_some, OrderedMap.get_empty, Option.getD_none] at members
  simp only [List.not_mem_nil, false_or] at members
  rw [members]
  constructor
  · rintro ⟨⟨key, ep⟩, picked, here, away, same⟩
    obtain ⟨wanted, chosen⟩ := (mem_getBalancedEndpoints consistent known _ _).mp picked
    exact ⟨away, key, ep, wanted, chosen, here, same⟩
  · rintro ⟨away, key, ep, wanted, chosen, here, same⟩
    exact ⟨(key, ep), (mem_getBalancedEndpoints consistent known _ _).mpr ⟨wanted, chosen⟩, here,
      away, same⟩

theorem exists_packet (consistent : net.Consistent) (known : sender ∈ net.nodes)
    (wanted : net.wants eventName groups key = true)
    (chosen : net.choice strategies sender key = some ep) (away : ep.node.id ≠ some sender) :
    ∃ packet ∈ net.packets strategies eventName sender groups, packet.target = ep.node.id := by
  have picked : (key, ep) ∈ net.getBalancedEndpoints strategies eventName sender groups :=
    (mem_getBalancedEndpoints consistent known key ep).mpr ⟨wanted, chosen⟩
  have inside := (mem_addGroups sender
    (net.getBalancedEndpoints strategies eventName sender groups) .empty ep.node.id key.2).mpr
    (.inr ⟨(key, ep), picked, rfl, away, rfl⟩)
  cases found : ((net.getBalancedEndpoints strategies eventName sender groups).foldl
      (addGroup sender) .empty).get ep.node.id with
  | none => simp [found] at inside
  | some names =>
    exact ⟨⟨ep.node.id, names⟩,
      List.mem_map.mpr ⟨(ep.node.id, names), OrderedMap.mem_entries_iff.mpr found, rfl⟩, rfl⟩

theorem nodup_packets (net : Network) (strategies : Strategies) (eventName sender : String)
    (groups : Option (List String)) :
    ((net.packets strategies eventName sender groups).map (·.target)).Nodup := by
  rw [packets, List.map_map]
  exact OrderedMap.nodup _

/-- A node has an endpoint for a list, as another one sees it. -/
def Hosts (net : Network) (viewer host : String) (key : ListKey) : Prop :=
  ∃ service, net.Subscribed viewer host key service

theorem hosts_iff_locals (consistent : net.Consistent) {host : String} (known : host ∈ net.nodes)
    (key : ListKey) : net.Hosts host host key ↔
      ∃ list, (net.catalog host).get key = some list ∧ list.locals ≠ [] := by
  constructor
  · rintro ⟨_, list, found, ep, inside, here, _⟩
    refine ⟨list, found, List.ne_nil_of_mem (List.mem_filter.mpr ⟨inside, ?_⟩)⟩
    simpa using (consistent.locals host known key list found ep inside).mpr here
  · rintro ⟨list, found, some_⟩
    obtain ⟨ep, member⟩ := List.exists_mem_of_ne_nil _ some_
    obtain ⟨inside, noted⟩ := List.mem_filter.mp member
    exact ⟨_, list, found, ep, inside,
      (consistent.locals host known key list found ep inside).mp (by simpa using noted), rfl⟩

theorem mem_receive (consistent : net.Consistent) (packet : EventPacket) (key : ListKey) :
    key ∈ (net.receive strategies eventName packet).map (·.key) ↔
      ∃ host ∈ net.nodes, packet.target = some host ∧
        net.wants eventName (some packet.groups) key = true ∧ net.Hosts host host key := by
  unfold receive
  cases target : packet.target with
  | none => simp
  | some host =>
    by_cases known : host ∈ net.nodes
    · simp only [if_pos known, emitLocalServices, List.mem_map, List.mem_filterMap,
        Option.some.injEq]
      constructor
      · rintro ⟨call, ⟨⟨other, list⟩, entry, called⟩, rfl⟩
        have found := OrderedMap.mem_entries_iff.mp entry
        dsimp only at called
        split at called
        · rename_i wanted
          obtain ⟨ep, picked, rfl⟩ := Option.map_eq_some_iff.mp called
          rw [EndpointList.nextLocal_eq
            (consistent.available host known other list found)] at picked
          have some_ := List.ne_nil_of_mem (Strategy.mem_of_choose picked)
          exact ⟨host, known, rfl, wanted,
            (hosts_iff_locals consistent known other).mpr ⟨list, found, some_⟩⟩
        · cases called
      · rintro ⟨other, _, same, wanted, hosts⟩
        subst same
        obtain ⟨list, found, some_⟩ := (hosts_iff_locals consistent known key).mp hosts
        obtain ⟨ep, _, picked⟩ := (strategies host key).exists_choose some_
        refine ⟨⟨host, key, ep⟩, ⟨(key, list), OrderedMap.mem_entries_iff.mpr found, ?_⟩, rfl⟩
        dsimp only
        rw [if_pos wanted,
          EndpointList.nextLocal_eq (consistent.available host known key list found), picked]
        rfl
    · simp only [if_neg known, List.map_nil, List.not_mem_nil, Option.some.injEq, false_iff]
      rintro ⟨other, inside, rfl, _⟩
      exact known inside

theorem countP_receive (net : Network) (strategies : Strategies) (eventName : String)
    (packet : EventPacket) (key : ListKey) :
    (net.receive strategies eventName packet).countP (fun call => call.key = key) =
      if key ∈ (net.receive strategies eventName packet).map (·.key) then 1 else 0 := by
  apply countP_key
  unfold receive
  split
  · split
    · apply OrderedMap.nodup_filterMap
      rintro ⟨other, list⟩ call same
      dsimp only at same
      split at same
      · obtain ⟨ep, _, rfl⟩ := Option.map_eq_some_iff.mp same
        rfl
      · cases same
    · exact List.nodup_nil
  · exact List.nodup_nil

theorem countP_emit {order : List EventPacket}
    (delivered : order.Perm (net.packets strategies eventName sender groups)) (key : ListKey) :
    (net.emit strategies eventName sender groups order).countP (fun call => call.key = key) =
      (net.localCalls strategies eventName sender groups).countP (fun call => call.key = key) +
        ((net.packets strategies eventName sender groups).filter fun packet =>
          key ∈ (net.receive strategies eventName packet).map (·.key)).length := by
  have each (packets : List EventPacket) :
      (packets.flatMap (net.receive strategies eventName)).countP (fun call => call.key = key) =
        packets.countP fun packet =>
          key ∈ (net.receive strategies eventName packet).map (·.key) := by
    induction packets with
    | nil => rfl
    | cons packet rest ih =>
      rw [List.flatMap_cons, List.countP_append, ih, countP_receive, List.countP_cons, add_comm]
      congr 1
      simp
  rw [emit, List.countP_append, each, delivered.countP_eq]
  congr 1
  exact List.countP_eq_length_filter

/-- Lists of one group do not get in each other's way: where one of them may send the event, the
others either have no endpoint or cannot be sent to another node. -/
def Separate (net : Network) (eventName sender : String) (groups : Option (List String)) : Prop :=
  ∀ key other, key ≠ other → key.2 = other.2 → net.wants eventName groups key = true →
    net.wants eventName groups other = true → ∀ ep ∈ net.candidates sender key, ∀ host,
      ep.node.id = some host → host ≠ sender → net.Hosts sender host other →
      ∀ rival ∈ net.candidates sender other, rival.node.id = some host

/-- Every list that takes part and has an endpoint is handled exactly once. -/
def ExactlyOnce (net : Network) (eventName sender : String) (groups : Option (List String))
    (calls : List Invocation) : Prop :=
  ∀ key list, (net.catalog sender).get key = some list → list.endpoints ≠ [] →
    net.wants eventName groups key = true → calls.countP (fun call => call.key = key) = 1

theorem reached_iff (consistent : net.Consistent) (known : sender ∈ net.nodes)
    (sent : packet ∈ net.packets strategies eventName sender groups)
    (wanted : net.wants eventName groups key = true) :
    key ∈ (net.receive strategies eventName packet).map (·.key) ↔
      ∃ host ∈ net.nodes, packet.target = some host ∧ host ≠ sender ∧
        net.Hosts sender host key ∧ ∃ other ep, net.wants eventName groups other = true ∧
          net.choice strategies sender other = some ep ∧ ep.node.id = some host ∧
          other.2 = key.2 := by
  obtain ⟨nonempty, members⟩ := mem_packets consistent known sent
  have agree (host : String) (there : host ∈ net.nodes) :
      net.Hosts host host key ↔ net.Hosts sender host key :=
    exists_congr fun service => (consistent.agree sender known host there key service).symm
  -- The name matches here as it does on the sender.
  have named : net.wants eventName (some packet.groups) key = true ↔ key.2 ∈ packet.groups := by
    simp only [wants, Bool.and_eq_true] at wanted
    simp [wants, wanted.1, inGroups, nonempty]
  rw [mem_receive consistent, named, members]
  constructor
  · rintro ⟨host, there, target, ⟨away, other, ep, wanted', chosen, here, group⟩, hosts⟩
    rw [target] at away here
    exact ⟨host, there, target, fun same => away (same ▸ rfl), (agree host there).mp hosts, other,
      ep, wanted', chosen, here, group⟩
  · rintro ⟨host, there, target, away, hosts, other, ep, wanted', chosen, here, group⟩
    refine ⟨host, there, target, ⟨?_, other, ep, wanted', chosen, here.trans target.symm, group⟩,
      (agree host there).mpr hosts⟩
    rw [target]
    exact fun same => away (Option.some.inj same)

theorem reached_of_choice (consistent : net.Consistent) (known : sender ∈ net.nodes)
    (sent : packet ∈ net.packets strategies eventName sender groups)
    (wanted : net.wants eventName groups key = true)
    (chosen : net.choice strategies sender key = some ep) (target : packet.target = ep.node.id)
    (away : ep.node.id ≠ some sender) :
    key ∈ (net.receive strategies eventName packet).map (·.key) := by
  obtain ⟨list, found, inside⟩ := mem_of_mem_candidates (Strategy.mem_of_choose chosen)
  obtain ⟨host, there, place⟩ := consistent.placed sender known key list found ep inside
  refine (reached_iff consistent known sent wanted).mpr ⟨host, there, target.trans place, ?_,
    ⟨_, list, found, ep, inside, place, rfl⟩, key, ep, wanted, chosen, place, rfl⟩
  rintro rfl
  exact away place

theorem filter_length_ne_one {α : Type} {list : List α} {test : α → Bool} {one other : α}
    (first : one ∈ list) (second : other ∈ list) (passes : test one = true)
    (passes' : test other = true) (differs : one ≠ other) : (list.filter test).length ≠ 1 := by
  intro single
  obtain ⟨only, same⟩ := List.length_eq_one_iff.mp single
  have here := List.mem_filter.mpr ⟨first, passes⟩
  have there := List.mem_filter.mpr ⟨second, passes'⟩
  rw [same, List.mem_singleton] at here there
  exact differs (here.trans there.symm)

/-- Separate lists are handled exactly once, whatever is chosen. -/
theorem Separate.exactlyOnce (separate : net.Separate eventName sender groups)
    (consistent : net.Consistent) (known : sender ∈ net.nodes) {order : List EventPacket}
    (delivered : order.Perm (net.packets strategies eventName sender groups)) :
    net.ExactlyOnce eventName sender groups
      (net.emit strategies eventName sender groups order) := by
  intro key list found nonempty wanted
  -- The list is sent to one of its candidates.
  have some_ : net.candidates sender key ≠ [] := by
    rw [candidates, found, Option.elim_some]
    unfold EndpointList.candidates
    split
    · rename_i picks
      exact EndpointList.locals_ne_nil (consistent.noted sender known key list found)
        (Bool.and_eq_true_iff.mp picks).2
    · exact nonempty
  obtain ⟨ep, candidate, chosen⟩ := (strategies sender key).exists_choose some_
  change net.choice strategies sender key = some ep at chosen
  -- A packet that reaches the list can only be the one for that candidate.
  have only (packet : EventPacket) (sent : packet ∈ net.packets strategies eventName sender groups)
      (reached : key ∈ (net.receive strategies eventName packet).map (·.key)) :
      ep.node.id = packet.target ∧ packet.target ≠ some sender := by
    obtain ⟨host, _, target, away, hosts, other, rival, wanted', chosen', here, group⟩ :=
      (reached_iff consistent known sent wanted).mp reached
    rw [target]
    refine ⟨?_, fun same => away (Option.some.inj same)⟩
    by_cases same : other = key
    · subst same
      rw [chosen] at chosen'
      cases chosen'
      exact here
    · exact separate other key same group wanted' wanted rival (Strategy.mem_of_choose chosen') host
        here away hosts ep candidate
  rw [countP_emit delivered, countP_localCalls consistent known]
  by_cases here : ep.node.id = some sender
  · -- The handler on the sender is the only one.
    have nothing : (net.packets strategies eventName sender groups).filter (fun packet =>
        key ∈ (net.receive strategies eventName packet).map (·.key)) = [] := by
      rw [List.filter_eq_nil_iff]
      intro packet sent reached
      obtain ⟨target, away⟩ := only packet sent (by simpa using reached)
      exact away (target.symm.trans here)
    rw [if_pos ⟨wanted, ep, chosen, here⟩, nothing]
    rfl
  · -- The packet for the candidate is the only one.
    have local_ : ¬ (net.wants eventName groups key = true ∧
        ∃ other, net.choice strategies sender key = some other ∧ other.node.id = some sender) := by
      rintro ⟨_, other, chosen', there⟩
      rw [chosen] at chosen'
      cases chosen'
      exact here there
    obtain ⟨packet, sent, target⟩ := exists_packet consistent known wanted chosen here
    have reached : ∀ other ∈ net.packets strategies eventName sender groups,
        decide (key ∈ (net.receive strategies eventName other).map (·.key)) =
          decide (other.target = packet.target) := by
      intro other sent'
      rw [decide_eq_decide]
      constructor
      · exact fun reached => (only other sent' reached).1.symm.trans target.symm
      · exact fun same => reached_of_choice consistent known sent' wanted chosen
          (same.trans target) here
    rw [if_neg local_, List.filter_congr reached, ← List.countP_eq_length_filter,
      countP_key (nodup_packets net strategies eventName sender groups),
      if_pos (List.mem_map.mpr ⟨packet, sent, rfl⟩)]

theorem separate_of_exactlyOnce (consistent : net.Consistent) (known : sender ∈ net.nodes)
    (once : ∀ strategies : Strategies, net.ExactlyOnce eventName sender groups
      (net.emit strategies eventName sender groups
        (net.packets strategies eventName sender groups))) :
    net.Separate eventName sender groups := by
  intro key other differs group wanted wanted' ep candidate host place away hosts rival candidate'
  by_contra elsewhere
  -- One list sends the event to the host, the other one to its rival.
  set strategies : Strategies := fun _ asked =>
    if asked = other then .prefer rival else .prefer ep with chosen
  have first : net.choice strategies sender key = some ep := by
    rw [choice, chosen]
    simp only [if_neg differs]
    exact Strategy.choose_prefer candidate
  have second : net.choice strategies sender other = some rival := by
    rw [choice, chosen]
    simp only [if_true]
    exact Strategy.choose_prefer candidate'
  obtain ⟨list, found, inside⟩ := mem_of_mem_candidates candidate'
  obtain ⟨list', found', inside'⟩ := mem_of_mem_candidates candidate
  have single := once strategies other list found (List.ne_nil_of_mem inside) wanted'
  obtain ⟨packet, sent, target⟩ := exists_packet consistent known wanted first (by
    rw [place]
    exact fun same => away (Option.some.inj same))
  have reached : other ∈ (net.receive strategies eventName packet).map (·.key) := by
    obtain ⟨node, there, place'⟩ := consistent.placed sender known key list' found' ep inside'
    rw [place] at place'
    cases place'
    exact (reached_iff consistent known sent wanted').mpr ⟨host, there, target.trans place, away,
      hosts, key, ep, wanted, first, place, group⟩
  rw [countP_emit (List.Perm.refl _), countP_localCalls consistent known] at single
  by_cases here : rival.node.id = some sender
  · -- The sender handles the event, and so does the host.
    rw [if_pos ⟨wanted', rival, second, here⟩] at single
    have some_ : 0 < ((net.packets strategies eventName sender groups).filter fun packet =>
        other ∈ (net.receive strategies eventName packet).map (·.key)).length :=
      List.length_pos_of_mem (List.mem_filter.mpr ⟨sent, decide_eq_true reached⟩)
    omega
  · -- The rival handles the event, and so does the host.
    obtain ⟨packet', sent', target'⟩ := exists_packet consistent known wanted' second here
    have reached' := reached_of_choice consistent known sent' wanted' second target' here
    rw [if_neg (by
      rintro ⟨_, chosen', second', there⟩
      rw [second] at second'
      cases second'
      exact here there), Nat.zero_add] at single
    refine filter_length_ne_one sent sent' (decide_eq_true reached) (decide_eq_true reached') ?_
      single
    rintro rfl
    rw [target, place] at target'
    exact elsewhere target'.symm

/-- An emitted event is handled exactly once for every list, whatever the strategies choose and in
whatever order the packets arrive, exactly when the lists of each group are separate. -/
theorem exactlyOnce_iff (net : Network) (consistent : net.Consistent) {sender : String}
    (known : sender ∈ net.nodes) (eventName : String) (groups : Option (List String)) :
    (∀ (strategies : Strategies) (order : List EventPacket),
      order.Perm (net.packets strategies eventName sender groups) →
        net.ExactlyOnce eventName sender groups
          (net.emit strategies eventName sender groups order)) ↔
      net.Separate eventName sender groups :=
  ⟨fun once => separate_of_exactlyOnce consistent known fun strategies =>
    once strategies _ (List.Perm.refl _), fun separate _ _ delivered =>
    separate.exactlyOnce consistent known delivered⟩

theorem subscribed_iff (net : Network) (viewer host : String) (key : ListKey) (service : String) :
    net.Subscribed viewer host key service ↔
      ∃ places, ((net.catalog viewer).mapValues fun list =>
        list.endpoints.map fun ep => (ep.node.id, ep.service.fullName)).get key = some places ∧
        (some host, service) ∈ places := by
  simp only [Subscribed, OrderedMap.get_mapValues, Option.map_eq_some_iff]
  constructor
  · rintro ⟨list, found, ep, inside, here, named⟩
    exact ⟨_, ⟨list, found, rfl⟩, List.mem_map.mpr ⟨ep, inside, by rw [here, named]⟩⟩
  · rintro ⟨_, ⟨list, found, rfl⟩, member⟩
    obtain ⟨ep, inside, same⟩ := List.mem_map.mp member
    obtain ⟨here, named⟩ := Prod.mk.inj same
    exact ⟨list, found, ep, inside, here, named⟩

/-- A service on a node that listens to one event under two patterns, in its own group. -/
def mailEvents (brokerID : String) (host : String) (ref : Nat) (catalog : EventCatalog)
    (patterns : List String) : EventCatalog :=
  patterns.foldl (fun state pattern =>
    let node : NodeRef := ⟨ref, some host⟩
    state.add brokerID (ref + state.size + 1) node ⟨ref + 1, node, "mail", "mail"⟩
      ⟨pattern, none, default⟩) catalog

/-- A sender and two nodes that both listen to the given patterns. -/
def mailNetwork (patterns : List String) : Network where
  nodes := ["a", "b", "c"]
  catalog := fun brokerID =>
    mailEvents brokerID "c" 20 (mailEvents brokerID "b" 10 .empty patterns) patterns
  preferLocal := fun _ => false
  test := fun _ _ => false

theorem consistent_mailNetwork : (mailNetwork ["user.created", "user.*"]).Consistent := by
  have entry {node key list} (found : ((mailNetwork ["user.created", "user.*"]).catalog node).get
      key = some list) := OrderedMap.mem_entries_iff.mpr found
  have views : ∀ viewer ∈ ["a", "b", "c"], ∀ host ∈ ["a", "b", "c"],
      (((mailNetwork ["user.created", "user.*"]).catalog viewer).mapValues fun list =>
        list.endpoints.map fun ep => (ep.node.id, ep.service.fullName)) =
      (((mailNetwork ["user.created", "user.*"]).catalog host).mapValues fun list =>
        list.endpoints.map fun ep => (ep.node.id, ep.service.fullName)) := by decide
  constructor
  case available =>
    have all : ∀ node ∈ ["a", "b", "c"],
        ∀ pair ∈ ((mailNetwork ["user.created", "user.*"]).catalog node).entries,
        ∀ ep ∈ pair.2.endpoints, ep.state = true := by decide
    exact fun node known key list found => all node known _ (entry found)
  case noted =>
    have all : ∀ node ∈ ["a", "b", "c"],
        ∀ pair ∈ ((mailNetwork ["user.created", "user.*"]).catalog node).entries,
        ∀ ref ∈ pair.2.localEndpoints, ∃ ep ∈ pair.2.endpoints, ep.ref = ref := by decide
    exact fun node known key list found => all node known _ (entry found)
  case locals =>
    have all : ∀ node ∈ ["a", "b", "c"],
        ∀ pair ∈ ((mailNetwork ["user.created", "user.*"]).catalog node).entries,
        ∀ ep ∈ pair.2.endpoints, ep.ref ∈ pair.2.localEndpoints ↔ ep.node.id = some node := by
      decide
    exact fun node known key list found => all node known _ (entry found)
  case placed =>
    have all : ∀ node ∈ ["a", "b", "c"],
        ∀ pair ∈ ((mailNetwork ["user.created", "user.*"]).catalog node).entries,
        ∀ ep ∈ pair.2.endpoints, ∃ host ∈ ["a", "b", "c"], ep.node.id = some host := by decide
    exact fun node known key list found => all node known _ (entry found)
  case agree =>
    intro viewer seen host there key service
    rw [subscribed_iff, subscribed_iff, views viewer seen host there]

/-- In the sample the event reaches every list once exactly when no list shares a group with
another one. -/
theorem exactlyOnce_iff_mail :
    (∀ strategies order, order.Perm ((mailNetwork ["user.created", "user.*"]).packets strategies
        "user.created" "a" none) →
      (mailNetwork ["user.created", "user.*"]).ExactlyOnce "user.created" "a" none
        ((mailNetwork ["user.created", "user.*"]).emit strategies "user.created" "a" none order)) ↔
      (mailNetwork ["user.created", "user.*"]).Separate "user.created" "a" none :=
  exactlyOnce_iff _ consistent_mailNetwork (by decide) _ _

/-- When the two lists of a group are balanced to two nodes, both nodes run the handlers of both
lists. -/
theorem overlapping_patterns_handled_twice :
    (mailNetwork ["user.created", "user.*"]).Consistent ∧
    ∃ strategies, ¬ (mailNetwork ["user.created", "user.*"]).ExactlyOnce "user.created" "a" none
      ((mailNetwork ["user.created", "user.*"]).emit strategies "user.created" "a" none
        ((mailNetwork ["user.created", "user.*"]).packets strategies "user.created" "a" none)) := by
  refine ⟨consistent_mailNetwork, fun _ key =>
    if key.1 = "user.*" then ⟨fun list nonempty => list.getLast nonempty, fun _ => List.getLast_mem⟩
    else ⟨fun list nonempty => list.head nonempty, fun _ => List.head_mem⟩, fun once => ?_⟩
  exact absurd (once ("user.created", "mail") _ rfl (by decide) (by decide)) (by decide)

end Network

end Moleculer.Events
