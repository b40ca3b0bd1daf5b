import Nodelet.Ctl.KnownHealth

/-! In every run of the goroutines of `SyncNodes`, what is known is what the nodes have answered. -/
namespace Nodeletctl
namespace SyncLoop
open Transition (Reaches)
variable {nodes : List HostConfig} {answers : Answers} {pass next bound : Nat} {nodeName : String}
    {node : HostConfig}

/-- How far the current pass has come. -/
def cursor (nodes : List HostConfig) : Main → Poller → Nat
  | .fetching next, _ => next
  | _, .syncing next _ => next
  | _, _ => nodes.length

section Cursor
variable {main : Main} {poller : Poller} (born : ∀ next, main ≠ .fetching next)
include born

theorem cursor_syncing {synced : Bool} : cursor nodes main (.syncing next synced) = next := by
  cases main with
  | fetching i => exact absurd rfl (born i)
  | _ => rfl

theorem cursor_between (between : ∀ next synced, poller ≠ .syncing next synced) :
    cursor nodes main poller = nodes.length := by
  cases main with
  | fetching i => exact absurd rfl (born i)
  | _ =>
    cases poller with
    | syncing i synced => exact absurd rfl (between i synced)
    | _ => rfl

end Cursor

/-- The goroutines next to what is known about the nodes. -/
structure Tracks (nodes : List HostConfig) (answers : Answers) (s : State) : Prop where
  fetching : ∀ next, s.main = .fetching next → s.poller = .unborn ∧ s.pass = 0
  failed : s.main = .failed → s.poller = .unborn
  passed : ∀ next synced, s.poller = .syncing next synced → s.pass ≠ 0
  known : s.main ≠ .failed →
    Known nodes answers s.pass (cursor nodes s.main s.poller) s.health s.found
  synced : ∀ next, s.poller = .syncing next true → ∀ i < next, ∀ node, nodes[i]? = some node →
    ∃ earlier < s.pass, OkIn nodes answers earlier node.nodeName
  closed : 0 < s.closed →
    ∀ node ∈ nodes, ∃ earlier < s.pass, OkIn nodes answers earlier node.nodeName
  returned : s.main = .returned → 0 < s.closed

namespace Tracks
variable {s t : State} {choice : Choice}

theorem initial : Tracks nodes answers {} where
  fetching _ _ := ⟨rfl, rfl⟩
  failed := nofun
  passed := nofun
  known _ := Known.initial
  synced := nofun
  closed impossible := absurd impossible (Nat.not_lt_zero _)
  returned := nofun

section Born
variable (tracks : Tracks nodes answers s) (poller : s.poller ≠ .unborn)
include tracks poller

theorem born :
    ∀ next, s.main ≠ .fetching next := fun next fetching => poller (tracks.fetching next fetching).1

theorem known_born : Known nodes answers s.pass (cursor nodes s.main s.poller) s.health s.found :=
  tracks.known fun failed => poller (tracks.failed failed)

theorem polls (pollerLater : Poller)
    (passed : ∀ next synced, pollerLater = .syncing next synced → t.pass ≠ 0)
    (mains : t.main = s.main) (pollers : t.poller = pollerLater)
    (known : Known nodes answers t.pass (cursor nodes s.main pollerLater) t.health t.found)
    (synced : ∀ next, pollerLater = .syncing next true → ∀ i < next, ∀ node, nodes[i]? = some node →
      ∃ earlier < t.pass, OkIn nodes answers earlier node.nodeName)
    (closed : 0 < t.closed →
      ∀ node ∈ nodes, ∃ earlier < t.pass, OkIn nodes answers earlier node.nodeName)
    (stays : s.closed ≤ t.closed) : Tracks nodes answers t where
  fetching next fetching := absurd (mains ▸ fetching) (tracks.born poller next)
  failed failed := absurd (tracks.failed (mains ▸ failed)) poller
  passed := pollers ▸ passed
  known _ := by rwa [mains, pollers]
  synced := pollers ▸ synced
  closed := closed
  returned returned := Nat.lt_of_lt_of_le (tracks.returned (mains ▸ returned)) stays

end Born

theorem syncing {synced : Bool} (tracks : Tracks nodes answers s)
    (syncing : s.poller = .syncing next synced) :
    Known nodes answers s.pass next s.health s.found := by
  have born : s.poller ≠ .unborn := by simp [syncing]
  have known := tracks.known_born born
  rwa [syncing, cursor_syncing (tracks.born born)] at known

theorem selecting (tracks : Tracks nodes answers s) (selecting : s.poller = .selecting) :
    Known nodes answers s.pass nodes.length s.health s.found := by
  have born : s.poller ≠ .unborn := by simp [selecting]
  have known := tracks.known_born born
  rwa [selecting, cursor_between (tracks.born born) (by simp)] at known

/-- In a pass that has found all nodes healthy so far, a node that is healthy was so in an earlier
pass. -/
theorem known_earlier (tracks : Tracks nodes answers s) (syncing : s.poller = .syncing next true)
    (healthy : s.health nodeName = nodeHealthy) :
    ∃ earlier < s.pass, OkIn nodes answers earlier nodeName := by
  refine (((tracks.syncing syncing).health nodeName).mp healthy).elim id ?_
  rintro ⟨i, before, named, -⟩
  obtain ⟨node, there, rfl⟩ := Option.map_eq_some_iff.mp named
  exact tracks.synced next syncing i before node there

theorem all_earlier (tracks : Tracks nodes answers s)
    (syncing : s.poller = .syncing nodes.length true) :
    ∀ node ∈ nodes, ∃ earlier < s.pass, OkIn nodes answers earlier node.nodeName := by
  intro node member
  obtain ⟨i, before, here⟩ := List.getElem_of_mem member
  exact tracks.synced nodes.length syncing i before node
    (List.getElem?_eq_some_iff.mpr ⟨before, here⟩)

theorem moves (tracks : Tracks nodes answers s) (follows : Follows answers choice s)
    (moves : Moves nodes choice s t) : Tracks nodes answers t := by
  cases moves with
  | connectFails fetching =>
    have unborn := (tracks.fetching _ fetching).1
    exact ⟨by simp, fun _ => unborn, by simp [unborn], fun ok =>
      absurd rfl ok, tracks.synced, tracks.closed, by simp⟩
  | fetch fetching here =>
    obtain ⟨unborn, first⟩ := tracks.fetching _ fetching
    have known := tracks.known (by simp [fetching])
    rw [fetching, first] at known
    refine ⟨fun _ _ =>
      ⟨unborn, first⟩, by simp [State.read], by simp [State.read, unborn], fun _ => ?_,
      by simp [State.read, unborn], tracks.closed, by simp [State.read]⟩
    cases follows _ fetching
    simpa only [State.read, first, cursor] using known.fetch here
  | start fetched =>
    have known := tracks.known (by simp [fetched])
    rw [fetched] at known
    exact ⟨by simp, by simp, by simp, fun _ => known, by simp, tracks.closed, by simp⟩
  | tick =>
    exact ⟨tracks.fetching, tracks.failed, tracks.passed, tracks.known, tracks.synced,
      tracks.closed, tracks.returned⟩
  | selectDone selecting =>
    have born : s.poller ≠ .unborn := by simp [selecting]
    refine tracks.polls born .exited (by simp) rfl rfl ?_ (by simp) tracks.closed (Nat.le_refl _)
    rw [cursor_between (tracks.born born) (by simp)]
    exact tracks.selecting selecting
  | selectTick selecting ready =>
    have born : s.poller ≠ .unborn := by simp [selecting]
    refine tracks.polls born (.syncing 0 true) (fun _ _ _ => Nat.succ_ne_zero _) rfl rfl ?_ ?_ ?_
      (Nat.le_refl _)
    · rw [cursor_syncing (tracks.born born)]
      exact (tracks.selecting selecting).begins
    · rintro _ ⟨⟩ i impossible
      exact absurd impossible (Nat.not_lt_zero i)
    · intro closed node member
      obtain ⟨earlier, before, ok⟩ := tracks.closed closed node member
      exact ⟨earlier, Nat.lt_succ_of_lt before, ok⟩
  | skip syncing here healthy =>
    have born : s.poller ≠ .unborn := by simp [syncing]
    have later := tracks.passed _ _ syncing
    refine tracks.polls born _ (fun _ _ _ => later) rfl rfl ?_ ?_ tracks.closed (Nat.le_refl _)
    · rw [cursor_syncing (tracks.born born)]
      exact (tracks.syncing syncing).skip later here healthy
    · rintro _ ⟨⟩ i before other there
      obtain early | rfl := Nat.lt_succ_iff_lt_or_eq.mp before
      · exact tracks.synced _ syncing i early other there
      · cases here.symm.trans there
        exact tracks.known_earlier syncing healthy
  | refresh syncing here sick =>
    have born : s.poller ≠ .unborn := by simp [syncing]
    have later := tracks.passed _ _ syncing
    refine tracks.polls born (.syncing _ false) (fun _ _ _ => later) rfl rfl ?_ (by simp)
      tracks.closed (Nat.le_refl _)
    rw [cursor_syncing (tracks.born born)]
    cases follows _ _ syncing
    exact (tracks.syncing syncing).refresh later here sick
  | retry syncing =>
    have born : s.poller ≠ .unborn := by simp [syncing]
    refine tracks.polls born .selecting (by simp) rfl rfl ?_ (by simp) tracks.closed (Nat.le_refl _)
    rw [cursor_between (tracks.born born) (by simp)]
    exact tracks.syncing syncing
  | close syncing opened =>
    have born : s.poller ≠ .unborn := by simp [syncing]
    refine tracks.polls born .selecting (by simp) rfl rfl ?_ (by simp) (fun _ =>
      tracks.all_earlier syncing) (by simp [opened])
    rw [cursor_between (tracks.born born) (by simp)]
    exact tracks.syncing syncing
  | panic syncing =>
    have born : s.poller ≠ .unborn := by simp [syncing]
    refine tracks.polls born .panicked (by simp) rfl rfl ?_ (by simp) (fun _ =>
      tracks.all_earlier syncing) (Nat.le_succ _)
    rw [cursor_between (tracks.born born) (by simp)]
    exact tracks.syncing syncing
  | wake waiting closed =>
    have known := tracks.known (by simp [waiting])
    rw [waiting] at known
    have same :
      cursor nodes .returned s.poller = cursor nodes .waiting s.poller := by cases s.poller <;> rfl
    exact ⟨by simp, by simp, tracks.passed, fun _ =>
      same ▸ known, tracks.synced, tracks.closed, fun _ => closed⟩

theorem reached (reached : Reaches (step nodes) (Follows answers) {} t) : Tracks nodes answers t :=
  reached.invariant initial fun _ _ _ tracks follows taken =>
    tracks.moves follows (moves_of_step taken)

/-- When the call has returned, what was found in a pass is what the nodes answered for the first
time. -/
theorem found_iff (tracks : Tracks nodes answers s) (returned : s.main = .returned)
    (between : ∀ next synced, s.poller ≠ .syncing next synced) :
    s.found pass nodeName = some nodeHealthy ↔
      pass ≤ s.pass ∧ FirstOk nodes answers pass nodes.length nodeName := by
  have known := tracks.known (by simp [returned])
  rw [cursor_between (by simp [returned]) between] at known
  obtain before | rfl | after := Nat.lt_trichotomy pass s.pass
  · rw [known.past pass before, and_iff_right (Nat.le_of_lt before)]
  · rw [known.current, and_iff_right (Nat.le_refl _)]
  · simp [known.future pass after, Nat.not_le_of_gt after]

end Tracks

end SyncLoop
end Nodeletctl
