import Mathlib.Data.List.Nodup
import PlugGraph.Proofs.History

/-!
# Bindings and driven plugs

Bindings and driven plugs come from separate scans over the connections, one by node and channel and
one by plug. They describe the same channels: a binding holds every channel that some driven plug
denotes, under whichever of its names, and holds it once, with the source of the last connection to
it. Sampling keeps this shape and gives the value of each source (`Binding.entries_ofGraph`).
-/

namespace PlugGraph

namespace Assoc

variable {κ β : Type} [DecidableEq κ]

theorem map_fst_put (key : κ) (value : β) (entries : List (κ × β)) :
    (put key value entries).map Prod.fst =
      if key ∈ entries.map Prod.fst then entries.map Prod.fst
      else entries.map Prod.fst ++ [key] := by
  induction entries with
  | nil => rfl
  | cons entry rest ih =>
    by_cases found : entry.1 = key
    · simp [put, found]
    · simp only [put, if_neg found, List.map_cons, ih, List.mem_cons, Ne.symm found, false_or]
      split <;> rfl

theorem put_of_notMem {key : κ} (value : β) {entries : List (κ × β)}
    (new : key ∉ entries.map Prod.fst) : put key value entries = entries ++ [(key, value)] := by
  induction entries with
  | nil => rfl
  | cons entry rest ih =>
    have first : entry.1 ≠ key := fun same => new (same ▸ List.mem_cons_self)
    have later : key ∉ rest.map Prod.fst := fun member => new (List.mem_cons_of_mem _ member)
    simp only [put, if_neg first, ih later, List.cons_append]

theorem nodup_put (key : κ) (value : β) {entries : List (κ × β)}
    (once : (entries.map Prod.fst).Nodup) : ((put key value entries).map Prod.fst).Nodup := by
  rw [map_fst_put]
  split
  · exact once
  · next new => exact List.concat_eq_append ▸ once.concat new

theorem mem_of_mem_put {key : κ} {value : β} {entry : κ × β} {entries : List (κ × β)}
    (member : entry ∈ put key value entries) : entry = (key, value) ∨ entry ∈ entries := by
  induction entries with
  | nil => exact .inl (List.mem_singleton.mp member)
  | cons first rest ih =>
    unfold put at member
    split at member
    · exact (List.mem_cons.mp member).imp_right (List.mem_cons_of_mem _)
    · rcases List.mem_cons.mp member with rfl | later
      · exact .inr List.mem_cons_self
      · exact (ih later).imp_right (List.mem_cons_of_mem _)

/-- As long as no key occurs twice, every entry is found. -/
theorem get?_eq_some_iff {key : κ} {value : β} {entries : List (κ × β)}
    (once : (entries.map Prod.fst).Nodup) :
    get? key entries = some value ↔ (key, value) ∈ entries := by
  induction entries with
  | nil => simp [get?]
  | cons entry rest ih =>
    obtain ⟨other, old⟩ := entry
    obtain ⟨new, once⟩ := List.nodup_cons.mp once
    unfold get?
    split
    · next same =>
      subst same
      have absent : (other, value) ∉ rest := fun later => new (List.mem_map.mpr ⟨_, later, rfl⟩)
      simp [absent, eq_comm]
    · next differ => simp [ih once, Ne.symm differ]

end Assoc

namespace Channel

/-- A channel is denoted by its long name and by its short name, and by no other. -/
theorem ofAttr?_eq_some_iff {attr : String} {channel : Channel} :
    ofAttr? attr = some channel ↔ attr = channel.longName ∨ attr = channel.name := by
  constructor
  · intro found
    have named := List.find?_some found
    rcases Bool.or_eq_true_iff.mp named with short | long
    · exact .inr (beq_iff_eq.mp short).symm
    · exact .inl (beq_iff_eq.mp long).symm
  · obtain ⟨motion, axis⟩ := channel
    rintro (rfl | rfl) <;> cases motion <;> cases axis <;> decide +kernel

/-- A plug denotes a channel of a node: its attribute is one of the two names. -/
def Denotes (text node : String) (channel : Channel) : Prop :=
  ∃ attr, Plug.ofText? text = some ⟨node, attr⟩ ∧ (attr = channel.longName ∨ attr = channel.name)

theorem ofPlug?_eq_some_iff {text node : String} {channel : Channel} :
    ofPlug? text = some (node, channel) ↔ Denotes text node channel := by
  simp only [ofPlug?, Option.bind_eq_bind, Option.bind_eq_some_iff, Option.pure_def,
    Option.some.injEq, Prod.mk.injEq, Denotes]
  constructor
  · rintro ⟨plug, split, found, known, rfl, rfl⟩
    exact ⟨plug.attr, split, ofAttr?_eq_some_iff.mp known⟩
  · rintro ⟨attr, split, named⟩
    exact ⟨⟨node, attr⟩, split, channel, ofAttr?_eq_some_iff.mpr named, rfl, rfl⟩

end Channel

namespace Binding

/-! ### Entries of bindings -/

/-- What stands under each channel of each node, node by node. -/
def flatten {β : Type} (grouped : List (String × List (Channel × β))) :
    List ((String × Channel) × β) :=
  grouped.flatMap fun (node, channels) => channels.map fun (channel, value) =>
    ((node, channel), value)

def entries (bindings : List Binding) : List ((String × Channel) × String) :=
  flatten (bindings.map fun binding => (binding.node, binding.channels))

theorem mem_flatten {β : Type} {grouped : List (String × List (Channel × β))} {node : String}
    {channel : Channel} {value : β} :
    ((node, channel), value) ∈ flatten grouped ↔
      ∃ channels, (node, channels) ∈ grouped ∧ (channel, value) ∈ channels := by
  simp [flatten]

/-- If no node occurs twice, and no channel twice under a node, no pair occurs twice. -/
theorem nodup_flatten {β : Type} {grouped : List (String × List (Channel × β))}
    (nodes : (grouped.map Prod.fst).Nodup)
    (channels : ∀ group ∈ grouped, (group.2.map Prod.fst).Nodup) :
    ((flatten grouped).map Prod.fst).Nodup := by
  have shape : (flatten grouped).map Prod.fst =
      grouped.flatMap fun group => (group.2.map Prod.fst).map (Prod.mk group.1) := by
    simp [flatten, List.map_flatMap, Function.comp_def]
  rw [shape, List.nodup_flatMap]
  constructor
  · intro group member
    exact (channels group member).map fun _ _ same => (Prod.mk.inj same).2
  · refine (List.pairwise_map.mp nodes).imp fun {group group'} differ pair here there => ?_
    obtain ⟨_, -, rfl⟩ := List.mem_map.mp here
    obtain ⟨_, -, same⟩ := List.mem_map.mp there
    exact differ (congrArg Prod.fst same).symm

/-! ### The scan by node and channel -/

def sourceOf? (node : String) (channel : Channel)
    (bindings : List (String × List (Channel × String))) : Option String :=
  (Assoc.get? node bindings).bind (Assoc.get? channel)

/-- Binding a channel leaves all others alone. -/
theorem sourceOf?_put (node node' : String) (channel channel' : Channel) (source : String)
    (bindings : List (String × List (Channel × String))) :
    sourceOf? node' channel' (Assoc.put node
        (Assoc.put channel source ((Assoc.get? node bindings).getD [])) bindings) =
      if node' = node ∧ channel' = channel then some source
      else sourceOf? node' channel' bindings := by
  by_cases sameNode : node' = node
  · subst sameNode
    by_cases sameChannel : channel' = channel
    · simp [sourceOf?, sameChannel]
    · cases known : Assoc.get? node' bindings <;>
        simp [sourceOf?, known, sameChannel, Assoc.get?_put_of_ne sameChannel, Assoc.get?]
  · simp [sourceOf?, sameNode, Assoc.get?_put_of_ne sameNode]

def last? (node : String) (channel : Channel) (connections : List Connection) :
    Option Connection :=
  connections.reverse.find? fun c => Channel.ofPlug? c.target = some (node, channel)

/-- The nodes of the channels that connections lead to, in order. -/
def drivenNodes (connections : List Connection) : List String :=
  connections.filterMap fun c => (Channel.ofPlug? c.target).map Prod.fst

/-- A connection of a list denotes a channel of a node, and no connection behind it does. -/
def IsLast (connections : List Connection) (node : String) (channel : Channel) (c : Connection) :
    Prop :=
  ∃ before after, connections = before ++ c :: after ∧ Channel.Denotes c.target node channel ∧
    ∀ later ∈ after, ¬ Channel.Denotes later.target node channel

theorem last?_concat (node : String) (channel : Channel) (connections : List Connection)
    (c : Connection) :
    last? node channel (connections ++ [c]) =
      if Channel.ofPlug? c.target = some (node, channel) then some c
      else last? node channel connections := by
  rw [last?, List.reverse_append, List.reverse_singleton, List.singleton_append, List.find?_cons]
  split
  · next leads => rw [if_pos (of_decide_eq_true leads)]
  · next other => rw [if_neg (of_decide_eq_false other), last?]

theorem last?_eq_some_iff {node : String} {channel : Channel} {connections : List Connection}
    {c : Connection} : last? node channel connections = some c ↔
      IsLast connections node channel c := by
  simp only [last?, List.find?_eq_some_iff_append, decide_eq_true_eq, Bool.not_eq_true',
    decide_eq_false_iff_not, Channel.ofPlug?_eq_some_iff, IsLast]
  constructor
  · rintro ⟨denotes, after, before, split, others⟩
    refine ⟨before.reverse, after.reverse, ?_, denotes, by simpa using others⟩
    simpa using congrArg List.reverse split
  · rintro ⟨before, after, rfl, denotes, others⟩
    exact ⟨denotes, after.reverse, before.reverse, by simp, by simpa using others⟩

/-- Some connection is the last one to a channel if any connection leads to it. -/
theorem exists_isLast_iff {connections : List Connection} {node : String} {channel : Channel} :
    (∃ c, IsLast connections node channel c) ↔
      ∃ c ∈ connections, Channel.Denotes c.target node channel := by
  simp only [← last?_eq_some_iff, ← Option.isSome_iff_exists, last?, List.find?_isSome,
    List.mem_reverse, decide_eq_true_eq, Channel.ofPlug?_eq_some_iff]

/-- What the bindings of a list of connections are. -/
structure Collects (connections : List Connection)
    (bindings : List (String × List (Channel × String))) : Prop where
  nodes : bindings.map Prod.fst = (drivenNodes connections).eraseDups
  once : ∀ binding ∈ bindings, (binding.2.map Prod.fst).Nodup
  sources : ∀ node channel,
    sourceOf? node channel bindings = (last? node channel connections).map (·.source)

theorem eraseDups_concat (names : List String) (name : String) :
    (names ++ [name]).eraseDups =
      if name ∈ names.eraseDups then names.eraseDups else names.eraseDups ++ [name] := by
  rw [List.eraseDups_append]
  by_cases known : name ∈ names
  · simp [List.removeAll, known]
  · simp [List.removeAll, known, List.eraseDups_cons]

theorem nodup_eraseDups (names : List String) : names.eraseDups.Nodup := by
  induction names using List.reverseRecOn with
  | nil => exact .nil
  | append_singleton names name ih =>
    rw [eraseDups_concat]
    split
    · exact ih
    · next new => exact List.concat_eq_append ▸ ih.concat new

namespace Collects

variable {connections : List Connection} {bindings : List (String × List (Channel × String))}

theorem nodup_nodes (h : Collects connections bindings) : (bindings.map Prod.fst).Nodup := by
  rw [h.nodes]
  exact nodup_eraseDups _

theorem mem_flatten_iff (h : Collects connections bindings) {node source : String}
    {channel : Channel} :
    ((node, channel), source) ∈ flatten bindings ↔
      ∃ c, IsLast connections node channel c ∧ c.source = source := by
  have found : sourceOf? node channel bindings = some source ↔
      ((node, channel), source) ∈ flatten bindings := by
    simp only [sourceOf?, Option.bind_eq_some_iff, mem_flatten,
      Assoc.get?_eq_some_iff h.nodup_nodes]
    refine exists_congr fun channels => and_congr_right fun member => ?_
    exact Assoc.get?_eq_some_iff (h.once _ member)
  rw [← found, h.sources, Option.map_eq_some_iff]
  exact exists_congr fun c => and_congr_left' last?_eq_some_iff

/-- The channels that are bound are those that some connection leads to. -/
theorem exists_mem_flatten_iff (h : Collects connections bindings) {node : String}
    {channel : Channel} :
    (node, channel) ∈ (flatten bindings).map Prod.fst ↔
      ∃ c ∈ connections, Channel.Denotes c.target node channel := by
  rw [← exists_isLast_iff, List.mem_map]
  constructor
  · rintro ⟨⟨_, source⟩, member, rfl⟩
    obtain ⟨c, last, -⟩ := h.mem_flatten_iff.mp member
    exact ⟨c, last⟩
  · rintro ⟨c, last⟩
    exact ⟨_, h.mem_flatten_iff.mpr ⟨c, last, rfl⟩, rfl⟩

theorem once_put (h : Collects connections bindings) (node source : String) (channel : Channel) :
    ∀ binding ∈ Assoc.put node
      (Assoc.put channel source ((Assoc.get? node bindings).getD [])) bindings,
      (binding.2.map Prod.fst).Nodup := by
  intro binding member
  rcases Assoc.mem_of_mem_put member with rfl | before
  · apply Assoc.nodup_put
    cases known : Assoc.get? node bindings with
    | none => exact .nil
    | some channels => exact h.once _ ((Assoc.get?_eq_some_iff h.nodup_nodes).mp known)
  · exact h.once binding before

/-- One more connection. -/
theorem add (h : Collects connections bindings) (c : Connection) :
    Collects (connections ++ [c]) (Binding.add bindings c) := by
  cases leads : Channel.ofPlug? c.target with
  | none =>
    have same : Binding.add bindings c = bindings := by rw [Binding.add, leads]
    rw [same]
    refine ⟨?_, h.once, fun node channel => ?_⟩
    · simpa [drivenNodes, leads] using h.nodes
    · rw [h.sources, last?_concat, if_neg (by simp [leads])]
  | some denoted =>
    obtain ⟨node, channel⟩ := denoted
    have put : Binding.add bindings c = Assoc.put node
        (Assoc.put channel c.source ((Assoc.get? node bindings).getD [])) bindings := by
      rw [Binding.add, leads]
    rw [put]
    refine ⟨?_, h.once_put node c.source channel, fun node' channel' => ?_⟩
    · have nodes : drivenNodes (connections ++ [c]) = drivenNodes connections ++ [node] := by
        simp [drivenNodes, leads]
      rw [Assoc.map_fst_put, h.nodes, nodes, eraseDups_concat]
    · rw [sourceOf?_put, last?_concat, leads, h.sources]
      by_cases same : node' = node ∧ channel' = channel
      · obtain ⟨rfl, rfl⟩ := same
        simp
      · have other : some (node, channel) ≠ some (node', channel') := by
          simpa [eq_comm] using same
        rw [if_neg same, if_neg other]

end Collects

theorem collects_foldl (connections : List Connection) :
    Collects connections (connections.foldl add []) := by
  induction connections using List.reverseRecOn with
  | nil => exact ⟨rfl, nofun, fun _ _ => rfl⟩
  | append_singleton connections c ih =>
    rw [List.foldl_concat]
    exact ih.add c

/-! ### The scan by plug -/

/-- The driven plugs are the targets that denote a channel. -/
theorem mem_drivenPlugs {graph : Graph} {text : String} :
    text ∈ drivenPlugs graph ↔
      (∃ c ∈ graph.connections, c.target = text) ∧
        ∃ node channel, Channel.Denotes text node channel := by
  rw [drivenPlugs, List.mem_eraseDups, List.mem_filter, List.mem_map, Option.isSome_iff_exists]
  simp only [Prod.exists, Channel.ofPlug?_eq_some_iff]

theorem exists_drivenPlug_iff {graph : Graph} {node : String} {channel : Channel} :
    (∃ text ∈ drivenPlugs graph, Channel.Denotes text node channel) ↔
      ∃ c ∈ graph.connections, Channel.Denotes c.target node channel := by
  simp only [mem_drivenPlugs]
  constructor
  · rintro ⟨_, ⟨⟨c, member, rfl⟩, -⟩, denotes⟩
    exact ⟨c, member, denotes⟩
  · rintro ⟨c, member, denotes⟩
    exact ⟨c.target, ⟨⟨c, member, rfl⟩, node, channel, denotes⟩, denotes⟩

/-! ### Sampling -/

section Sampling

variable {α : Type} [Scalar α]

/-- Evaluates the sources of entries and keeps their keys. -/
def readEach {ι : Type} (entries : List (ι × String)) (frame : α) : Query α (List (ι × α)) :=
  entries.mapM fun (key, source) => return (key, ← Query.evaluate source frame)

theorem readEach_cons {ι : Type} (entry : ι × String) (rest : List (ι × String)) (frame : α) :
    readEach (entry :: rest) frame = Query.evaluate entry.2 frame >>= fun value =>
      ((entry.1, value) :: ·) <$> readEach rest frame := by
  simp only [readEach, List.mapM_cons, bind_pure_comp, bind_map_left]

theorem map_fst_readEach {ι : Type} (entries : List (ι × String)) (frame : α) (e : Evaluator α) :
    ((readEach entries frame).run e).value.map Prod.fst = entries.map Prod.fst := by
  induction entries generalizing e with
  | nil => rfl
  | cons entry rest ih =>
    simp only [readEach_cons, Query.run_bind, Query.run_map, List.map_cons, ih]

/-- The values are those of the sources one after the other. -/
theorem map_snd_readEach {ι : Type} (entries : List (ι × String)) (frame : α) :
    List.map Prod.snd <$> readEach entries frame =
      Query.evaluateAll (entries.map Prod.snd) frame := by
  induction entries with
  | nil => rfl
  | cons entry rest ih =>
    rw [readEach_cons, List.map_cons, Query.evaluateAll_cons, map_bind]
    simp only [Functor.map_map, List.map_cons, ← ih]

theorem readEach_append {ι : Type} (front back : List (ι × String)) (frame : α) :
    readEach (front ++ back) frame =
      readEach front frame >>= fun values => (values ++ ·) <$> readEach back frame := by
  simp only [readEach, List.mapM_append, bind_pure_comp]

/-- The values of the channels of one node. -/
theorem readEach_pairs (node : String) (channels : List (Channel × String)) (frame : α) :
    readEach (channels.map fun (channel, source) => ((node, channel), source)) frame =
      (List.map fun (channel, value) => ((node, channel), value)) <$>
        Query.evaluateChannels channels frame := by
  induction channels with
  | nil => rfl
  | cons entry rest ih =>
    have whole : Query.evaluateChannels (entry :: rest) frame =
        readEach (entry :: rest) frame := rfl
    rw [List.map_cons, readEach_cons, ih, whole, readEach_cons, map_bind]
    simp only [Functor.map_map, List.map_cons]
    rfl

/-- A node that has not been sampled comes behind those that have. -/
theorem foldlM_put (bindings : List Binding) (frame : α)
    (sampled : List (String × List (Channel × α)))
    (once : (sampled.map Prod.fst ++ bindings.map (·.node)).Nodup) :
    bindings.foldlM (fun sampled binding =>
        return Assoc.put binding.node (← Query.evaluateChannels binding.channels frame) sampled)
        sampled =
      (sampled ++ ·) <$> bindings.mapM fun binding =>
        return (binding.node, ← Query.evaluateChannels binding.channels frame) := by
  induction bindings generalizing sampled with
  | nil => simp
  | cons binding rest ih =>
    have new : binding.node ∉ sampled.map Prod.fst := fun old =>
      (List.nodup_append.mp once).2.2 _ old _ List.mem_cons_self rfl
    simp only [List.foldlM_cons, List.mapM_cons, bind_assoc, pure_bind, map_bind]
    refine congrArg _ (funext fun values => ?_)
    rw [Assoc.put_of_notMem _ new, ih]
    · simp
    · simpa using once

/-- Bindings of different nodes are sampled one after the other. -/
theorem sampleBindings_eq_mapM {bindings : List Binding} (once : (bindings.map (·.node)).Nodup)
    (frame : α) :
    Query.sampleBindings bindings frame = bindings.mapM fun binding =>
      return (binding.node, ← Query.evaluateChannels binding.channels frame) := by
  rw [Query.sampleBindings, foldlM_put bindings frame [] once]
  simp

/-- Sampling bindings evaluates the sources of their entries in order. -/
theorem flatten_sampleBindings {bindings : List Binding} (once : (bindings.map (·.node)).Nodup)
    (frame : α) :
    flatten <$> Query.sampleBindings bindings frame = readEach (entries bindings) frame := by
  rw [sampleBindings_eq_mapM once]
  clear once
  induction bindings with
  | nil => rfl
  | cons binding rest ih =>
    have first : entries (binding :: rest) =
        (binding.channels.map fun (channel, source) => ((binding.node, channel), source)) ++
          entries rest := rfl
    rw [first, readEach_append, readEach_pairs, ← ih]
    simp only [List.mapM_cons, map_bind, bind_map_left, Functor.map_map, bind_pure_comp]
    rfl

theorem map_fst_sampleBindings {bindings : List Binding} (once : (bindings.map (·.node)).Nodup)
    (frame : α) (e : Evaluator α) :
    ((Query.sampleBindings bindings frame).run e).value.map Prod.fst =
      bindings.map (·.node) := by
  rw [sampleBindings_eq_mapM once]
  clear once
  induction bindings generalizing e with
  | nil => rfl
  | cons binding rest ih =>
    have later := ih ((Query.evaluateChannels binding.channels frame).run e).evaluator
    simp only [List.mapM_cons, bind_pure_comp, bind_map_left, Query.run_bind, Query.run_map,
      List.map_cons, List.cons.injEq, true_and] at later ⊢
    exact later

/-- Sampling finds for each bound channel the value of its source, in the order of the entries. -/
theorem sampleBindings_reads {bindings : List Binding} (once : (bindings.map (·.node)).Nodup)
    (frame : α) (e : Evaluator α) :
    let sampled := (Query.sampleBindings bindings frame).run e
    let read := (Query.evaluateAll ((entries bindings).map Prod.snd) frame).run e
    (flatten sampled.value).map Prod.fst = (entries bindings).map Prod.fst ∧
      (flatten sampled.value).map Prod.snd = read.value ∧
      sampled.events = read.events ∧ sampled.evaluator = read.evaluator := by
  intro sampled read
  have each : { sampled with value := flatten sampled.value } =
      (readEach (entries bindings) frame).run e := by
    rw [← flatten_sampleBindings once, Query.run_map]
  have values : { sampled with value := (flatten sampled.value).map Prod.snd } = read := by
    simp only [read, ← map_snd_readEach, Query.run_map, ← each]
  refine ⟨?_, congrArg Answer.value values, congrArg Answer.events values,
    congrArg Answer.evaluator values⟩
  rw [← map_fst_readEach (entries bindings) frame e, ← each]

/-- When sampling reports no cycle, each bound channel has the value that a fresh evaluator gives
for its source. -/
theorem sampleBindings_eq_fresh (nodes : List Node) (connections : List Connection)
    (curves : List (String × CurveShape α)) (rotation : RotationBlend α) (bindings : List Binding)
    (frame : α) :
    let fresh := Evaluator.ofGraph (.ofRecords nodes connections) curves rotation
    let value (plug : String) := ((Query.evaluate plug frame).run fresh).value
    let sampled := (Query.sampleBindings bindings frame).run fresh
    (bindings.map (·.node)).Nodup → Acyclic sampled.events →
      flatten sampled.value =
        (entries bindings).map fun (pair, source) => (pair, value source) := by
  intro fresh value sampled once clean
  have start : fresh.Consistent fresh.context frame :=
    Evaluator.consistent_ofGraph nodes connections curves rotation frame
  obtain ⟨pairs, values, events, -⟩ := sampleBindings_reads once frame fresh
  rw [events] at clean
  rw [(start.evaluateAll_of_denotes start (start.exists_denotes _ clean)).1] at values
  rw [List.map_map] at values
  exact (List.zip_of_prod pairs values).trans List.zip_map'

/-- Bindings and driven plugs describe the same channels. Each channel of a node that a driven plug
denotes is bound once, to the source of the last connection to it. The nodes come in the order in
which connections first lead to their channels, and sampling gives one value for each bound channel,
that of its source. -/
theorem entries_ofGraph (graph : Graph) (frame : α) (e : Evaluator α) :
    let bound := entries (ofGraph graph)
    let pairs := bound.map Prod.fst
    let sampled := (Query.sampleBindings (ofGraph graph) frame).run e
    let read := (Query.evaluateAll (bound.map Prod.snd) frame).run e
    pairs.Nodup ∧
      (∀ node channel, (node, channel) ∈ pairs ↔
        ∃ text ∈ drivenPlugs graph, ∃ attr, Plug.ofText? text = some ⟨node, attr⟩ ∧
          Channel.ofAttr? attr = some channel) ∧
      (∀ text ∈ drivenPlugs graph, ∃ pair ∈ pairs, Channel.ofPlug? text = some pair) ∧
      (∀ node channel source, ((node, channel), source) ∈ bound ↔
        ∃ c, IsLast graph.connections node channel c ∧ c.source = source) ∧
      (ofGraph graph).map (·.node) = (drivenNodes graph.connections).eraseDups ∧
      sampled.value.map Prod.fst = (ofGraph graph).map (·.node) ∧
      (flatten sampled.value).map Prod.fst = pairs ∧
      (flatten sampled.value).map Prod.snd = read.value ∧
      sampled.events = read.events ∧ sampled.evaluator = read.evaluator := by
  intro bound pairs sampled read
  have collects := collects_foldl graph.connections
  have shape : bound = flatten (graph.connections.foldl add []) := by
    simp only [bound, entries, ofGraph, List.map_map, Function.comp_def, List.map_id']
  have distinct : ((ofGraph graph).map (·.node)).Nodup := by
    rw [ofGraph, List.map_map]
    exact collects.nodup_nodes
  have driven (node : String) (channel : Channel) :
      (node, channel) ∈ pairs ↔ ∃ text ∈ drivenPlugs graph, Channel.Denotes text node channel := by
    rw [exists_drivenPlug_iff, ← collects.exists_mem_flatten_iff, ← shape]
  refine ⟨?_, fun node channel => ?_, fun text member => ?_, fun node channel source => ?_, ?_,
    map_fst_sampleBindings distinct frame e, sampleBindings_reads distinct frame e⟩
  · show (bound.map Prod.fst).Nodup
    rw [shape]
    exact nodup_flatten collects.nodup_nodes collects.once
  · simp only [driven, Channel.Denotes, Channel.ofAttr?_eq_some_iff]
  · obtain ⟨-, node, channel, denotes⟩ := mem_drivenPlugs.mp member
    exact ⟨(node, channel), (driven node channel).mpr ⟨text, member, denotes⟩,
      Channel.ofPlug?_eq_some_iff.mpr denotes⟩
  · rw [shape]
    exact collects.mem_flatten_iff
  · rw [← collects.nodes, ofGraph, List.map_map]
    rfl

end Sampling

end Binding

end PlugGraph
