import Digitizer.Proofs.Sequencing
import Digitizer.Ring.Node
import Digitizer.Scripted.Files

/-!
# Opening a ring

The nodes of a ring are opened in the order of their numbers, and nothing is asked of any of them before all are open. `Opened`
lists what can become of it. Once they are open, opening is taking over the ring of these nodes (`openDirectory_eq`), and what
the kernel is asked then is what the journal says, slot by slot of the node with that number (`records_start`).
-/
namespace Digitizer

/-- The name of a node is its number in decimal digits. -/
theorem Node.pathOf_eq (directory : String) (slot : Nat) :
    Node.pathOf directory slot = joinPath directory (String.ofList (Nat.toDigits 10 slot)) := rfl

/-- A node of a ring cannot be opened, and all before it can. -/
structure FirstRefused (files : FileSystem) (directory : String) (n slot : Nat) (cause : Errno) : Prop where
  lt : slot < n
  refused : files.openPath (Node.pathOf directory slot) = .error cause
  before : ∀ i < slot, ∃ handle, files.openPath (Node.pathOf directory i) = .ok handle

/-- All nodes of a ring can be opened, and the node in each slot is the one that is named after it. -/
structure AllOpen (files : FileSystem) (directory : String) (n : Nat) (nodes : List Node) : Prop where
  length : nodes.length = n
  named : ∀ slot < n, ∃ handle, files.openPath (Node.pathOf directory slot) = .ok handle ∧
    nodes[slot]? = some ⟨Node.pathOf directory slot, handle⟩

/-- Only one node is the first. -/
theorem FirstRefused.unique {files : FileSystem} {directory : String} {n slot slot' : Nat} {cause cause' : Errno}
    (h : FirstRefused files directory n slot cause) (h' : FirstRefused files directory n slot' cause') :
    slot = slot' ∧ cause = cause' := by
  have hle : ∀ {i j : Nat} {e e' : Errno}, FirstRefused files directory n i e → FirstRefused files directory n j e' →
      i ≤ j := by
    intro i j e e' hi hj
    refine Nat.le_of_not_lt fun hlt => ?_
    obtain ⟨handle, hopen⟩ := hi.before j hlt
    exact absurd (hopen.symm.trans hj.refused) (by simp)
  obtain rfl := Nat.le_antisymm (hle h h') (hle h' h)
  exact ⟨rfl, Except.error.inj (h.refused.symm.trans h'.refused)⟩

theorem AllOpen.not_firstRefused {files : FileSystem} {directory : String} {n slot : Nat} {cause : Errno}
    {nodes : List Node} (h : AllOpen files directory n nodes) : ¬FirstRefused files directory n slot cause := by
  intro hfirst
  obtain ⟨handle, hopen, -⟩ := h.named slot hfirst.lt
  exact absurd (hopen.symm.trans hfirst.refused) (by simp)

theorem Node.openRing_succ (files : FileSystem) (directory : String) (n : Nat) :
    Node.openRing files directory (n + 1) =
      Node.openRing files directory n >>= fun nodes =>
        Node.openAt files (Node.pathOf directory n) >>= fun node => pure (nodes ++ [node]) := by
  simp [openRing, List.range_succ]

theorem Node.openRing_congr {files files' : FileSystem} {directory : String} {n : Nat}
    (same : ∀ slot < n, files'.openPath (Node.pathOf directory slot) = files.openPath (Node.pathOf directory slot)) :
    Node.openRing files' directory n = Node.openRing files directory n := by
  induction n with
  | zero => rfl
  | succ n ih =>
    have hlast : Node.openAt files' (Node.pathOf directory n) = Node.openAt files (Node.pathOf directory n) := by
      rw [openAt, openAt, same n (Nat.lt_succ_self n)]
    rw [openRing_succ, openRing_succ, ih fun slot hslot => same slot (Nat.lt_succ_of_lt hslot), hlast]

/-- The first node that cannot be opened decides, or all are open. -/
theorem openRing_cases (files : FileSystem) (directory : String) (n : Nat) :
    (∃ slot cause, FirstRefused files directory n slot cause ∧
        Node.openRing files directory n = .error ⟨Node.pathOf directory slot, cause⟩) ∨
      ∃ nodes, AllOpen files directory n nodes ∧ Node.openRing files directory n = .ok nodes := by
  induction n with
  | zero => exact Or.inr ⟨[], ⟨rfl, fun slot hslot => absurd hslot (Nat.not_lt_zero slot)⟩, rfl⟩
  | succ n ih =>
    rw [Node.openRing_succ]
    rcases ih with ⟨slot, cause, ⟨hlt, hrefused, hbefore⟩, h⟩ | ⟨nodes, ⟨hlength, hnamed⟩, h⟩
    · rw [h]
      exact Or.inl ⟨slot, cause, ⟨Nat.lt_succ_of_lt hlt, hrefused, hbefore⟩, rfl⟩
    · rw [h]
      cases hlast : files.openPath (Node.pathOf directory n) with
      | error cause =>
        refine Or.inl ⟨n, cause, ⟨Nat.lt_succ_self n, hlast, fun i hi => ?_⟩, ?_⟩
        · exact (hnamed i hi).imp fun _ h => h.1
        · rw [Node.openAt, hlast]
          rfl
      | ok handle =>
        refine Or.inr ⟨nodes ++ [⟨Node.pathOf directory n, handle⟩], ⟨by simp [hlength], fun slot hslot => ?_⟩, ?_⟩
        · rcases Nat.lt_succ_iff_lt_or_eq.1 hslot with hslot | rfl
          · obtain ⟨other, hopen, hnode⟩ := hnamed slot hslot
            exact ⟨other, hopen, by rw [List.getElem?_append_left (hlength ▸ hslot), hnode]⟩
          · exact ⟨handle, hlast, by simp [← hlength]⟩
        · rw [Node.openAt, hlast]
          rfl

namespace Transport
variable {n : Nat} {κ ε α β : Type} [Kernel κ]

/-- What the log is told once all nodes are open. -/
def openedNotices (directory : String) (nodes : List Node) : List Notice :=
  nodes.map (.nodeOpened ·.path) ++ [.ringOpened nodes.length directory]

theorem openDirectory_of_error {files : FileSystem} {directory : String} {fault : NodeFault}
    (h : Node.openRing files directory n = .error fault) (c : Transport n (NodeRing κ)) :
    openDirectory files directory c = ⟨.error (.node fault), c, []⟩ := by
  rw [openDirectory, h]
  rfl

/-- With all nodes open, the ring of these nodes is taken over by a new transport. -/
theorem openDirectory_of_ok {files : FileSystem} {directory : String} {nodes : List Node}
    (h : Node.openRing files directory n = .ok nodes) (length : nodes.length = n) (c : Transport n (NodeRing κ)) :
    let new := start ({ ring := { c.ring with nodes } } : Transport n (NodeRing κ))
    openDirectory files directory c =
      ⟨new.result.mapError .transport, new.state, (openedNotices directory nodes).map .notice ++ new.journal⟩ := by
  intro new
  have hnodes : (Action.mapError OpenError.node (Action.ofExcept (Node.openRing files directory n)) :
      Action (Transport n (NodeRing κ)) OpenError (List Node)) c = ⟨.ok nodes, c, []⟩ := by rw [h]; rfl
  rw [openDirectory, Action.bind_of_ok hnodes, Action.bind_of_ok (Action.each_notify _ nodes c), Action.notify_bind,
    Action.modify_bind, openedNotices, length]
  simp [new]

end Transport

/-! ## What the kernel is asked -/

/-- A kernel, and the requests made of it so far, each with the path of the node. -/
structure Watched (κ : Type) where
  kernel : κ
  made : List (String × NodeRequest) := []

instance {κ : Type} [Kernel κ] : Kernel (Watched κ) where
  serve w node r :=
    let (answer, kernel) := Kernel.serve w.kernel node r
    (answer, { kernel, made := w.made ++ [(node.path, r)] })

/-- The requests that a journal tells of, each with the path of the node that is named after the slot. -/
def Journal.requests (directory : String) (j : Journal) : List (String × NodeRequest) :=
  j.calls.filterMap fun (slot, c) => c.request?.map (Node.pathOf directory slot, ·)

theorem Journal.requests_append (directory : String) (j k : Journal) :
    Journal.requests directory (j ++ k) = j.requests directory ++ k.requests directory := by
  rw [requests, calls_append, List.filterMap_append, requests, requests]

theorem Journal.requests_notices (directory : String) (notices : List Notice) :
    Journal.requests directory (notices.map Entry.notice) = [] := by
  have hcalls : Journal.calls (notices.map Entry.notice) = [] := by
    refine List.filterMap_eq_nil_iff.2 fun e he => ?_
    obtain ⟨notice, -, rfl⟩ := List.mem_map.1 he
    rfl
  rw [requests, hcalls, List.filterMap_nil]

namespace NodeRing
variable {κ : Type} [Kernel κ]

/-- A ring in which every slot holds the node that is named after it. -/
def Numbered (ring : NodeRing κ) (directory : String) (n : Nat) : Prop :=
  ∀ slot < n, ∃ handle, ring.nodes[slot]? = some ⟨Node.pathOf directory slot, handle⟩

/-- A request on a slot is made of the node that is named after it. -/
theorem request_spec {ring : NodeRing (Watched κ)} {directory : String} {n slot : Nat} (h : ring.Numbered directory n)
    (hslot : slot < n) (r : NodeRequest) :
    (ring.request slot r).2.nodes = ring.nodes ∧
      (ring.request slot r).2.driver.made = ring.driver.made ++ [(Node.pathOf directory slot, r)] := by
  obtain ⟨handle, hnode⟩ := h slot hslot
  simp [request, hnode, Kernel.serve]

theorem ready_snd (ring : NodeRing κ) (slot : Nat) : (Ring.ready ring slot).2 = (ring.request slot .ready).2 := by
  simp only [Ring.ready]
  split <;> simp_all

end NodeRing

namespace Transport
variable {n : Nat} {κ ε α β : Type} {directory : String}

/-- On a ring with numbered nodes an action keeps the nodes, and the kernel is asked what the journal tells. -/
def Traced (directory : String) (p : Action (Transport n (NodeRing (Watched κ))) ε α) : Prop :=
  ∀ t, t.ring.Numbered directory n → (p t).state.ring.nodes = t.ring.nodes ∧
    (p t).state.ring.driver.made = t.ring.driver.made ++ (p t).journal.requests directory

theorem traced_pure (a : α) : Traced directory (pure a : Action (Transport n (NodeRing (Watched κ))) ε α) :=
  fun _ _ => ⟨rfl, (List.append_nil _).symm⟩

theorem traced_notify (m : Notice) :
    Traced directory (Action.notify m : Action (Transport n (NodeRing (Watched κ))) ε Unit) :=
  fun _ _ => ⟨rfl, (List.append_nil _).symm⟩

theorem traced_modify (f : Transport n (NodeRing (Watched κ)) → Transport n (NodeRing (Watched κ)))
    (h : ∀ t, (f t).ring = t.ring) : Traced directory (Action.modify f : Action _ ε Unit) := by
  intro t _
  rw [Action.modify_apply, h]
  exact ⟨rfl, (List.append_nil _).symm⟩

theorem traced_get_bind {f : Transport n (NodeRing (Watched κ)) → Action (Transport n (NodeRing (Watched κ))) ε α}
    (h : ∀ t, Traced directory (f t)) : Traced directory (Action.get >>= f) :=
  fun t numbered => h t t numbered

theorem Traced.bind {p : Action (Transport n (NodeRing (Watched κ))) ε α}
    {f : α → Action (Transport n (NodeRing (Watched κ))) ε β} (hp : Traced directory p)
    (hf : ∀ a, Traced directory (f a)) : Traced directory (p >>= f) := by
  intro t numbered
  obtain ⟨hnodes, hmade⟩ := hp t numbered
  cases h : (p t).result with
  | error e =>
    rw [Action.bind_of_result_error h]
    exact ⟨hnodes, hmade⟩
  | ok a =>
    have hnumbered : (p t).state.ring.Numbered directory n := by rwa [NodeRing.Numbered, hnodes]
    obtain ⟨hnodes', hmade'⟩ := hf a (p t).state hnumbered
    rw [Action.bind_of_result_ok h, Journal.requests_append, ← List.append_assoc, ← hmade]
    exact ⟨hnodes'.trans hnodes, hmade'⟩

theorem traced_each {f : β → Action (Transport n (NodeRing (Watched κ))) ε Unit} {bs : List β}
    (h : ∀ b ∈ bs, Traced directory (f b)) : Traced directory (Action.each f bs) := by
  induction bs with
  | nil => exact traced_pure ()
  | cons b bs ih =>
    exact (h b List.mem_cons_self).bind fun _ => ih fun b hb => h b (List.mem_cons_of_mem _ hb)

variable [Kernel κ]

theorem traced_issue (command : Command) {slot : Nat} (hslot : slot < n) (r : NodeRequest)
    {record : Except Errno r.Answer → Call} (same : ∀ answer, (record answer).request? = some r) :
    Traced directory (issue command slot (NodeRing.request · slot r) record :
      Action (Transport n (NodeRing (Watched κ))) TransportError r.Answer) := by
  intro t numbered
  obtain ⟨hnodes, hmade⟩ := NodeRing.request_spec numbered hslot r
  refine ⟨hnodes, hmade.trans ?_⟩
  simp [issue, Journal.requests, Journal.calls, Entry.call?, same]

theorem traced_probe (hn : 0 < n) : Traced directory (probe : Action (Transport n (NodeRing (Watched κ))) ε Bool) := by
  intro t numbered
  obtain ⟨hnodes, hmade⟩ := NodeRing.request_spec numbered (Nat.mod_lt t.doorbell.toNat hn) .ready
  rw [← NodeRing.ready_snd] at hnodes hmade
  exact ⟨hnodes, hmade⟩

theorem traced_awaitReady (hn : 0 < n) :
    Traced directory (awaitReady : Action (Transport n (NodeRing (Watched κ))) ε Unit) := by
  have hprobes : ∀ attempts,
      Traced directory (probeUpTo attempts : Action (Transport n (NodeRing (Watched κ))) ε Bool) := by
    intro attempts
    induction attempts with
    | zero => exact traced_pure false
    | succ attempts ih =>
      refine (traced_probe hn).bind fun ready => ?_
      split
      · exact traced_pure true
      · exact ih
  refine traced_get_bind fun t => (hprobes t.policy.attempts).bind fun ready => ?_
  split
  · exact traced_pure ()
  · exact traced_notify _

theorem traced_returnAll (hn : 0 < n) :
    Traced directory (returnAll : Action (Transport n (NodeRing (Watched κ))) TransportError Unit) :=
  traced_each fun _ hslot => (traced_awaitReady hn).bind fun _ =>
    traced_issue .feedback (List.mem_range.1 hslot) .feedback fun _ => rfl

theorem traced_queryInfo (hn : 0 < n) :
    Traced directory (queryInfo : Action (Transport n (NodeRing (Watched κ))) TransportError ControllerInfo) :=
  (traced_awaitReady hn).bind fun _ => traced_get_bind fun t =>
    traced_issue .info (Nat.mod_lt t.doorbell.toNat hn) .info fun _ => rfl

theorem traced_pollDoorbell (hn : 0 < n) :
    Traced directory (pollDoorbell : Action (Transport n (NodeRing (Watched κ))) TransportError UInt32) := by
  have hquery : Traced directory (queryDoorbell : Action (Transport n (NodeRing (Watched κ))) TransportError UInt32) :=
    (traced_awaitReady hn).bind fun _ => traced_get_bind fun t =>
      traced_issue .doorbell (Nat.mod_lt t.doorbell.toNat hn) .doorbell fun _ => rfl
  refine hquery.bind fun found => traced_get_bind fun t => ?_
  split
  · refine Traced.bind ?_ fun _ => traced_pure found
    exact traced_get_bind fun _ => (traced_notify _).bind fun _ => (traced_returnAll hn).bind fun _ =>
      traced_modify _ fun _ => rfl
  · exact traced_pure found

theorem traced_start (hn : 0 < n) :
    Traced directory (start : Action (Transport n (NodeRing (Watched κ))) TransportError Unit) := by
  refine (traced_returnAll hn).bind fun _ => (traced_queryInfo hn).bind fun info => ?_
  refine (traced_modify (fun t => { t with info }) fun _ => rfl).bind fun _ => (traced_notify _).bind fun _ => ?_
  exact (traced_pollDoorbell hn).bind fun found => traced_modify _ fun _ => rfl

/-! ## Opening -/

/-- Whether the ring is opened or not, the kernel is asked what the journal tells. -/
theorem made_openDirectory (hn : 0 < n) (files : FileSystem) (directory : String)
    (c : Transport n (NodeRing (Watched κ))) :
    (openDirectory files directory c).state.ring.driver.made =
      c.ring.driver.made ++ (openDirectory files directory c).journal.requests directory := by
  rcases openRing_cases files directory n with ⟨slot, cause, -, h⟩ | ⟨nodes, hopen, h⟩
  · rw [openDirectory_of_error h]
    exact (List.append_nil _).symm
  · let ring : NodeRing (Watched κ) := { c.ring with nodes }
    have hnumbered : ring.Numbered directory n := fun slot hslot => (hopen.named slot hslot).imp fun _ h => h.2
    have hmade := (traced_start hn { ring } hnumbered).2
    rw [openDirectory_of_ok h hopen.length, Journal.requests_append, Journal.requests_notices]
    exact hmade

/--
Over every file system and every kernel, the nodes of a ring are opened before anything is asked of them. If one of them cannot be
opened, the first such node is reported with its path and the cause, and nothing else is done. If all can, the ring with the
node in each slot that is named after it is taken over by a new transport, and nothing else is asked of the kernel. Only
what the paths of these nodes lead to matters. The requests that reach the kernel are those of the journal, each made of the
node that is named after its slot, in decimal digits.
-/
theorem nodes_opened_before_requests (hn : 0 < n) (files : FileSystem) (directory : String) :
    (∀ c : Transport n (NodeRing κ),
      (∃ slot cause, FirstRefused files directory n slot cause ∧
          openDirectory files directory c = ⟨.error (.node ⟨Node.pathOf directory slot, cause⟩), c, []⟩) ∨
        ∃ nodes, AllOpen files directory n nodes ∧
          let new := start ({ ring := { c.ring with nodes }, policy := {} } : Transport n (NodeRing κ))
          openDirectory files directory c =
            ⟨new.result.mapError .transport, new.state, (openedNotices directory nodes).map .notice ++ new.journal⟩) ∧
      (∀ files' : FileSystem,
        (∀ slot < n, files'.openPath (Node.pathOf directory slot) = files.openPath (Node.pathOf directory slot)) →
          ∀ c : Transport n (NodeRing κ), openDirectory files' directory c = openDirectory files directory c) ∧
      (∀ c : Transport n (NodeRing (Watched κ)), (openDirectory files directory c).state.ring.driver.made =
        c.ring.driver.made ++ (openDirectory files directory c).journal.requests directory) ∧
      ∀ slot, Node.pathOf directory slot = joinPath directory (String.ofList (Nat.toDigits 10 slot)) := by
  refine ⟨fun c => ?_, fun files' same c => ?_, made_openDirectory hn files directory, Node.pathOf_eq directory⟩
  · rcases openRing_cases files directory n with ⟨slot, cause, hrefused, h⟩ | ⟨nodes, hopen, h⟩
    · exact Or.inl ⟨slot, cause, hrefused, openDirectory_of_error h c⟩
    · exact Or.inr ⟨nodes, hopen, openDirectory_of_ok h hopen.length c⟩
  · rw [openDirectory, Node.openRing_congr same, ← openDirectory]

/--
A directory lists ten before nine. With all eleven nodes their buffers are given back in the order of the numbers. Without
nodes five and seven only the path of node five is reported.
-/
theorem eleven_nodes_opened_in_order :
    let path := Node.pathOf "/dev/ipts"
    let names := [path 0, path 1, path 10, path 2, path 3, path 4, path 6, path 8, path 9, "/dev/ipts/05", "/dev/ipts/a"]
    let missing := FileSystem.ofTexts [] (names.map (·, ""))
    let complete := FileSystem.ofTexts [] ((path 5 :: path 7 :: names).map (·, ""))
    let kernel : Watched (Option NodeDriver) := { kernel := some { ready := 1, doorbell := 7 } }
    let c : Transport 11 (NodeRing (Watched (Option NodeDriver))) := { ring := { driver := kernel } }
    let o := openDirectory complete "/dev/ipts" c
    0 < 11 ∧ openDirectory missing "/dev/ipts" c = ⟨.error (.node ⟨"/dev/ipts/5", Errno.notFound⟩), c, []⟩ ∧
      o.result = .ok () ∧ o.state.doorbell = 7 ∧
      o.state.ring.driver.made.filter (·.2 = .feedback) = (List.range 11).map (path ·, .feedback) := by
  intro path names missing complete kernel c o
  have hn : 0 < 11 := by decide
  refine ⟨hn, ?_, Action.ok_of_isOk (by decide +kernel), by decide +kernel, ?_⟩
  · have hbefore : ∀ i < 5, (names.map (·, "")).lookup (path i) = some "" := by decide +kernel
    have hmissing : (names.map (·, "")).lookup (path 5) = none := by decide +kernel
    have hfive : FirstRefused missing "/dev/ipts" 11 5 Errno.notFound := by
      refine ⟨by decide, FileSystem.openPath_ofTexts_of_none hmissing, fun i hi => ?_⟩
      exact ⟨_, FileSystem.openPath_ofTexts (hbefore i hi)⟩
    rcases (nodes_opened_before_requests hn missing "/dev/ipts").1 c with ⟨slot, cause, hfirst, ho⟩ | ⟨nodes, hall, -⟩
    · obtain ⟨rfl, rfl⟩ := hfirst.unique hfive
      have hpath : Node.pathOf "/dev/ipts" 5 = "/dev/ipts/5" := by decide +kernel
      rw [ho, hpath]
    · exact absurd hfive hall.not_firstRefused
  · have hmade := (nodes_opened_before_requests hn complete "/dev/ipts").2.2.1 c
    rw [hmade]
    decide +kernel

end Transport
end Digitizer
