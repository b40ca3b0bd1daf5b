import Nodelet.Go.Remote

/-! Programs whose requests are answered well: where every answer is an allowed one, the program
passes some event on its way, or it returns what it should. -/
namespace Go.Resumption
variable {σ Request α β : Type} {Answer : Request → Type}

/-- With allowed answers, a `found` event comes, or the value that is returned satisfies `post`. -/
def Leads (allowed found : Event Answer → Prop) (post : α → Prop) :
    Resumption Request Answer α → Prop
  | .done value => post value
  | .call request next => ∀ answer, allowed ⟨request, answer⟩ →
      found ⟨request, answer⟩ ∨ Leads allowed found post (next answer)

namespace Leads
variable {allowed found : Event Answer → Prop} {post : α → Prop}
  {program : Resumption Request Answer α}

theorem found_or_returned {step : σ → Event Answer → σ → Prop} {s t : σ} {value : α}
    (leads : Leads allowed found post program) (runs : Runs step program s trace (.done value) t)
    (served : ∀ event ∈ trace, allowed event) : (∃ event ∈ trace, found event) ∨ post value := by
  generalize ended : Resumption.done value = remaining at runs
  induction runs with
  | refl =>
    subst ended
    exact .inr leads
  | call _ _ ih =>
    obtain ⟨head, tail⟩ := List.forall_mem_cons.mp served
    obtain here | later := leads _ head
    · exact .inl ⟨_, List.mem_cons_self, here⟩
    · refine (ih later tail ended).imp_left ?_
      rintro ⟨event, member, holds⟩
      exact ⟨event, List.mem_cons_of_mem _ member, holds⟩

theorem any (program : Resumption Request Answer α) :
    Leads allowed found (fun _ => True) program := by
  induction program with
  | done value => trivial
  | call request next ih => exact fun answer _ => .inr (ih answer)

theorem bind {next : α → Resumption Request Answer β} {final : β → Prop}
    (first : Leads allowed found post program)
    (rest : ∀ value, post value → Leads allowed found final (next value)) :
    Leads allowed found final (program.bind next) := by
  induction program with
  | done value => exact rest value first
  | call request continuation ih => exact fun answer served => (first answer served).imp_right (ih answer)

end Leads

namespace Leads
variable {allowed found : Event Answer → Prop} {final : Except Error β → Prop}
  {program : Remote Request Answer α} {next : α → Remote Request Answer β}

theorem bindOk {value : α} (first : Leads allowed found (· = .ok value) program.run)
    (rest : Leads allowed found final (next value).run) :
    Leads allowed found final (program >>= next).run := by
  rw [Resumption.run_bind]
  refine first.bind ?_
  rintro _ rfl
  exact rest

/-- Each answer is looked at before the next request is made. -/
theorem perform_bind {next : Answer request → Remote Request Answer β}
    (rest : ∀ answer, allowed ⟨request, answer⟩ → found ⟨request, answer⟩ ∨
      Leads allowed found final (next answer).run) :
    Leads allowed found final
      (ExceptT.lift (perform request) >>= next : Remote Request Answer β).run :=
  rest

/-- An error of the first part is put aside. -/
theorem lift_bind {call : Resumption Request Answer α} {post : α → Prop}
    (first : Leads allowed found post call)
    (rest : ∀ value, post value → Leads allowed found final (next value).run) :
    Leads allowed found final (ExceptT.lift call >>= next : Remote Request Answer β).run := by
  have returned : Leads allowed found (fun result => ∃ value, result = .ok value ∧ post value)
      (ExceptT.lift call : Remote Request Answer α).run := first.bind fun value holds => ⟨value, rfl, holds⟩
  rw [Resumption.run_bind]
  refine returned.bind ?_
  rintro _ ⟨value, rfl, holds⟩
  exact rest value holds

theorem ite_pos {condition : Prop} [Decidable condition] {yes no : Remote Request Answer β}
    (holds : condition)
    (leads : Leads allowed found final yes.run) : Leads allowed found final (if condition then yes
      else no).run := by
  rwa [if_pos holds]

end Leads
end Go.Resumption
