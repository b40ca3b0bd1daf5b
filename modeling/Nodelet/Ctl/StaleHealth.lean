import Nodelet.Ctl.HealthTracking

/-! What is known about the nodes when `SyncNodes` returns. A node that was seen healthy is not
read again, so its state may be out of date by then. -/
namespace Nodeletctl
namespace SyncLoop
open Transition (Reaches)
variable {nodes : List HostConfig} {answers : Answers} {pass next bound : Nat} {nodeName : String}
    {node : HostConfig}

theorem exists_common_bound {α : Type} {P : α → Nat → Prop} {items : List α}
    (each : ∀ item ∈ items, ∃ n, P item n) : ∃ bound, ∀ item ∈ items, ∃ n ≤ bound, P item n := by
  induction items with
  | nil => exact ⟨0, List.forall_mem_nil _⟩
  | cons item rest ih =>
    obtain ⟨⟨n, holds⟩, others⟩ := List.forall_mem_cons.mp each
    obtain ⟨bound, all⟩ := ih others
    refine ⟨max n bound,
      List.forall_mem_cons.mpr ⟨⟨n, Nat.le_max_left _ _, holds⟩, fun other member => ?_⟩⟩
    obtain ⟨m, below, holds⟩ := all other member
    exact ⟨m, Nat.le_trans below (Nat.le_max_right _ _), holds⟩

section Runs
variable {s : State}

/-- The poller is between two passes, and `done` is open. -/
structure Waits (s : State) (pass : Nat) : Prop where
  main : s.main = .waiting
  poller : s.poller = .selecting
  closed : s.closed = 0
  pass : s.pass = pass

theorem exists_fetched (answers : Answers) (bound : Nat) (inside : bound ≤ nodes.length) :
    ∃ t, Reaches (step nodes) (Follows answers) {} t ∧ t.main = .fetching bound ∧ t.closed = 0 := by
  induction bound with
  | zero => exact ⟨{}, .refl, rfl, rfl⟩
  | succ bound ih =>
    obtain ⟨t, reached, fetching, opened⟩ := ih (Nat.le_of_succ_le inside)
    obtain ⟨node, here⟩ : ∃ node, nodes[bound]? = some node := ⟨_, List.getElem?_eq_getElem inside⟩
    have follows : Follows answers (.fetch (answers 0 bound)) t := fun next same => by
      cases fetching.symm.trans same
      rfl
    have fetches : step nodes (.fetch (answers 0 bound)) t =
        some { t.read node.nodeName (answers 0 bound) with main := .fetching (bound + 1) } := by
      simp only [step, fetching, here, Option.map_some]
    exact ⟨_, .next reached follows fetches, rfl, opened⟩

theorem exists_started (nodes : List HostConfig) (answers : Answers) :
    ∃ t, Reaches (step nodes) (Follows answers) {} t ∧ Waits t 0 := by
  obtain ⟨t, reached, fetching, opened⟩ := exists_fetched answers nodes.length (Nat.le_refl _)
  have first := ((Tracks.reached reached).fetching _ fetching).2
  have starts : step nodes .start t = some { t with main := .waiting, poller := .selecting } := by
    simp only [step, fetching, if_true]
  have follows : Follows answers .start t := trivial
  exact ⟨_, .next reached follows starts, rfl, rfl, opened, first⟩

theorem exists_visited (reached : Reaches (step nodes) (Follows answers) {} s)
    (waiting : s.main = .waiting)
    (begun : s.poller = .syncing 0 true) (bound : Nat) (inside : bound ≤ nodes.length) :
    ∃ t synced, Reaches (step nodes) (Follows answers) {} t ∧ t.main = .waiting ∧
      t.poller = .syncing bound synced ∧
      t.closed = s.closed ∧ t.pass = s.pass ∧
      ((∀ node ∈ nodes, s.health node.nodeName = nodeHealthy) →
        synced = true ∧ t.health = s.health) := by
  induction bound with
  | zero => exact ⟨s, true, reached, waiting, begun, rfl, rfl, fun _ => ⟨rfl, rfl⟩⟩
  | succ bound ih =>
    obtain ⟨t, synced, reached, waiting, syncing, closed, pass, healthy⟩ :=
      ih (Nat.le_of_succ_le inside)
    have here : nodes[bound]? = some nodes[bound] := List.getElem?_eq_getElem inside
    have follows : Follows answers (.visit (answers t.pass bound)) t := fun next _ same => by
      cases syncing.symm.trans same
      rfl
    have visits : step nodes (.visit (answers t.pass bound)) t =
        some (visit t bound synced (answers t.pass bound) nodes[bound]) := by
      simp only [step, syncing, here, Option.map_some]
    have next := Reaches.next reached follows visits
    by_cases well : t.health nodes[bound].nodeName = nodeHealthy
    · rw [visit, if_pos well] at next
      exact ⟨_, synced, next, waiting, rfl, closed, pass, healthy⟩
    · rw [visit, if_neg well] at next
      refine ⟨_, false, next, waiting, rfl, closed, pass, fun all => absurd ?_ well⟩
      rw [(healthy all).2]
      exact all _ (List.getElem_mem inside)

/-- A pass that is the next one leads to another wait, or to the end of the call. It ends the call
where all nodes have been seen healthy. -/
theorem exists_passed (reached : Reaches (step nodes) (Follows answers) {} s)
    (waits : Waits s pass) :
    ∃ t, Reaches (step nodes) (Follows answers) {} t ∧ (t.main = .returned ∧ t.poller = .selecting ∨
      Waits t (pass + 1) ∧ ¬ ∀ node ∈ nodes, s.health node.nodeName = nodeHealthy) := by
  have follows (choice : Choice) (s : State) (quiet : ∀ answer, choice ≠ .fetch answer ∧
      choice ≠ .visit answer) : Follows answers choice s := by
    cases choice <;> first | trivial | exact absurd rfl (quiet _).1 | exact absurd rfl (quiet _).2
  have ticks : step nodes .tick s = some { s with tick := true } := by simp [step, waits.poller]
  have ticked := Reaches.next reached (follows _ _ (by simp)) ticks
  have begins : step nodes .selectTick { s with tick := true } = some { s with
      tick := false, poller := .syncing 0 true, pass := s.pass + 1, late := s.late || 0 < s.closed } := by
    simp [step, waits.poller]
  have begun := Reaches.next ticked (follows _ _ (by simp)) begins
  obtain ⟨t, synced, visited, waiting, syncing, closed, passes, healthy⟩ :=
    exists_visited begun waits.main rfl nodes.length (Nat.le_refl _)
  have opened : t.closed = 0 := closed.trans waits.closed
  have finishes : step nodes .finish t = some (finish t synced) := by simp [step, syncing]
  have finished := Reaches.next visited (follows _ _ (by simp)) finishes
  cases synced with
  | false =>
    refine ⟨_, finished,
      .inr ⟨⟨waiting, rfl, opened, ?_⟩, fun all => absurd (healthy all).1 Bool.false_ne_true⟩⟩
    rw [← waits.pass]
    exact passes
  | true =>
    have wakes : step nodes .wake (finish t true) = some { finish t true with main := .returned } := by
      simp [step, finish, waiting]
    refine ⟨_, .next finished (follows _ _ (by simp)) wakes, .inl ⟨rfl, ?_⟩⟩
    simp [finish, opened]

theorem exists_waits (nodes : List HostConfig) (answers : Answers) (pass : Nat) :
    ∃ t, Reaches (step nodes) (Follows answers) {} t ∧
      (t.main = .returned ∧ t.poller = .selecting ∨ Waits t pass) := by
  induction pass with
  | zero =>
    obtain ⟨t, reached, waits⟩ := exists_started nodes answers
    exact ⟨t, reached, .inr waits⟩
  | succ pass ih =>
    obtain ⟨t, reached, returned | waits⟩ := ih
    · exact ⟨t, reached, .inl returned⟩
    · obtain ⟨u, passed, either⟩ := exists_passed reached waits
      exact ⟨u, passed, either.imp id And.left⟩

/-- Where every node answers at some time that it is healthy, the call can return. -/
theorem exists_returned (healthy : ∀ node ∈ nodes, ∃ pass, OkIn nodes answers pass node.nodeName) :
    ∃ t, Reaches (step nodes) (Follows answers) {} t ∧ t.main = .returned ∧
      t.poller = .selecting := by
  obtain ⟨last, all⟩ :
      ∃ last, ∀ node ∈ nodes, ∃ pass ≤ last, OkIn nodes answers pass node.nodeName :=
    exists_common_bound healthy
  obtain ⟨s, reached, returned | waits⟩ := exists_waits nodes answers last
  · exact ⟨s, reached, returned⟩
  obtain ⟨t, passed, returned | ⟨_, sick⟩⟩ := exists_passed reached waits
  · exact ⟨t, passed, returned⟩
  refine absurd (fun node member => ?_) sick
  obtain ⟨pass, bound, ok⟩ := all node member
  refine ((Tracks.reached reached).selecting waits.poller).health node.nodeName |>.mpr ?_
  rw [waits.pass]
  obtain before | rfl := Nat.lt_or_eq_of_le bound
  · exact .inl ⟨pass, before, ok⟩
  · exact .inr ok

end Runs

/-- Whenever the call returns there was one pass in which all nodes were read and healthy, exactly
where one of them never is, or where all of them are so for the first time in the same pass. -/
theorem returned_of_one_pass_iff (nodes : List HostConfig) (answers : Answers) :
    (∀ t, Reaches (step nodes) (Follows answers) {} t → t.main = .returned →
      ∃ pass, ∀ node ∈ nodes, t.found pass node.nodeName = some nodeHealthy) ↔
    (∃ node ∈ nodes, ∀ pass, ¬ OkIn nodes answers pass node.nodeName) ∨
      ∃ pass, ∀ node ∈ nodes, FirstOk nodes answers pass nodes.length node.nodeName := by
  constructor
  · intro together
    refine or_iff_not_imp_left.mpr fun healthy => ?_
    push Not at healthy
    obtain ⟨t, reached, returned, selecting⟩ := exists_returned healthy
    obtain ⟨pass, all⟩ := together t reached returned
    refine ⟨pass, fun node member => ?_⟩
    exact (((Tracks.reached reached).found_iff returned (by simp [selecting])).mp
      (all node member)).2
  · intro condition t reached returned
    have tracks := Tracks.reached reached
    have closed := tracks.closed (tracks.returned returned)
    obtain ⟨node, member, never⟩ | ⟨pass, first⟩ := condition
    · obtain ⟨earlier, -, ok⟩ := closed node member
      exact absurd ok (never earlier)
    · refine ⟨pass, fun node member => ?_⟩
      obtain ⟨earlier, before, ok⟩ := closed node member
      -- the common pass is not later than the one that `done` was closed for
      have notAfter : ¬ earlier < pass := fun after => (first node member).2 earlier after ok
      have past : pass < t.pass := Nat.lt_of_le_of_lt (Nat.le_of_not_lt notAfter) before
      exact ((tracks.known (by simp [returned])).past pass past node.nodeName).mpr (first node member)

/-- The first of two nodes is healthy at first only, and the second one from the next pass on. -/
def flapping : Answers
  | 0, 0 => some nodeHealthy
  | 0, _ => some "converging"
  | _, 0 => some "failed"
  | _, _ => some nodeHealthy

def twoNodes : List HostConfig := [{ nodeName := "one" }, { nodeName := "two" }]

/-- The call returns after two passes. In the first fetch only one node was healthy, and in the
first pass, in which it is not read any more, only the other one. The second pass reads nothing. -/
theorem returned_on_stale_health :
    ∃ t, Reaches (step twoNodes) (Follows flapping) {} t ∧ t.main = .returned ∧ t.pass = 2 ∧
      [0, 1, 2].map (fun pass => (t.found pass "one", t.found pass "two")) =
        [(some nodeHealthy, some "converging"), (none, some nodeHealthy), (none, none)] ∧
      ∀ pass, ¬ ∀ node ∈ twoNodes, t.found pass node.nodeName = some nodeHealthy := by
  have followed : (Transition.follow (step twoNodes) (Follows flapping)
      [.fetch (some nodeHealthy), .fetch (some "converging"), .start,
        .tick, .selectTick, .visit (some "failed"), .visit (some nodeHealthy), .finish,
        .tick, .selectTick, .visit (some "failed"), .visit (some nodeHealthy), .finish, .wake] {}).map
      (fun s => (s.main, s.pass, [0, 1, 2].map fun pass => (s.found pass "one", s.found pass "two"))) =
      some (.returned, 2, [(some nodeHealthy, some "converging"), (none, some nodeHealthy), (none, none)]) := by
    decide +kernel
  obtain ⟨t, followed, seen⟩ := Option.map_eq_some_iff.mp followed
  obtain ⟨returned, rest⟩ := Prod.mk.inj seen
  obtain ⟨passes, found⟩ := Prod.mk.inj rest
  have reached := Transition.follow_reaches followed
  refine ⟨t, reached, returned, passes, found, fun pass all => ?_⟩
  have one := all { nodeName := "one" } (by simp [twoNodes])
  have two := all { nodeName := "two" } (by simp [twoNodes])
  have known := (Tracks.reached reached).known (by simp [returned])
  obtain ⟨unsettled, skipped, unread⟩ : t.found 0 "two" = some "converging" ∧
      t.found 1 "one" = none ∧ t.found 2 "one" = none := by simp_all
  match pass with
  | 0 => simp [unsettled, nodeHealthy] at two
  | 1 => simp [skipped] at one
  | 2 => simp [unread] at one
  | later + 3 => simp [known.future (later + 3) (by omega)] at one

end SyncLoop
end Nodeletctl
