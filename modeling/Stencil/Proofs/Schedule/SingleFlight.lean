import Stencil.Proofs.Schedule.Bystander

/-!
# Single flight

The two laws of the loads that requests share: they are safe over any order of events, and a load that
has ended is given to new calls exactly as long as it is not forgotten.

## Main definitions

- `Scheduler.Keyed` — the loads of a key, ended or not
- `Scheduler.Starts` — whether an event starts a load of a key
- `Scheduler.SameFor` — what a request can tell two schedulers apart by
-/

namespace Stencil

namespace Scheduler

variable {σ V : Type} {h : Host σ V} {s s' : Scheduler σ V V}

/-- A load of a key, ended or not. -/
def Keyed (s : Scheduler σ V V) (key : Nat × Text) (l : Nat) : Prop :=
  ∃ job, s.job? l = some job ∧ job.key? = some key

/-- An event starts a load of a key. -/
def Starts (h : Host σ V) (s : Scheduler σ V V) (e : Event σ V V) (key : Nat × Text) : Prop :=
  ∃ l, s.job? l = none ∧ (s.after h e).Keyed key l

/-- Nothing is different for a job: not its outcome, as itself or as a load, nor what was reported. -/
structure SameFor (s s' : Scheduler σ V V) (id : Nat) : Prop where
  outcome : s.outcome? id = s'.outcome? id
  told : s.told? id = s'.told? id
  reported : s.reported.count id = s'.reported.count id

theorem sameFor_of_without {gone : List Nat} (same : s.without gone = s'.without gone) {id : Nat}
    (stays : id ∉ gone) : s.SameFor s' id := by
  have job := congrArg (fun s : Scheduler σ V V => s.job? id) same
  simp only [job?_without_stays stays] at job
  refine ⟨?_, ?_, ?_⟩
  · have outcome : ∀ job : Job V V, (job.work.unawaited gone).outcome? = job.work.outcome? := by
      rintro ⟨_, work, _⟩
      cases work <;> rfl
    have := congrArg (fun job => job.bind fun job => job.work.outcome?) job
    simp only [Option.bind_map, Function.comp_def, outcome] at this
    exact this
  · have := congrArg (fun job => job.bind fun job => job.work.landed?) job
    simp only [Option.bind_map, Function.comp_def, Work.landed?_unawaited] at this
    exact this
  · have := congrArg (fun s : Scheduler σ V V => s.reported.count id) same
    simpa only [without, List.count_filter, stays, not_false_eq_true, decide_true] using this

/-- A host without cache and storage, whose loads end at once. -/
def instant : Host Unit Nat where
  lookup _ _ x := (none, x)
  act _ _ x := x
  holding _ := false
  beginRead _ x := x
  serve _ x := (.error .cancelled, x)
  load _ _ _ _ := .finish (.ok 7)

/-- **Single flight is safe** over every run, whatever other requests and loads do. A key has one load
at a time, which is started for a call that found none. A call that is not cancelled ends with the
outcome of the load that it found or started, once. Cancelling calls changes nothing for the others.
When the loads that have ended are forgotten, those in flight are those that have not ended. -/
theorem single_flight_safe (h : Host σ V) (x : σ) (es : List (Event σ V V)) :
    let s := ({ state := x } : Scheduler σ V V).play h es
    ((∀ key l l', s.Unfinished key l → s.Unfinished key l' → l = l') ∧
      ∀ e l job key, s.job? l = none → (s.after h e).job? l = some job → job.key? = some key →
        s.flights.lookup key = none ∧ ∃ id caller, (s.after h e).job? id = some caller ∧
          caller.service = key.1 ∧ caller.work.phase = .waiting l) ∧
    (∀ id key e, s.Calls id key e → ∃ l,
      (s.flights.lookup key = some l ∨ s.flights.lookup key = none ∧ s.job? l = none) ∧
      (s.after h e).Keyed key l ∧
      ∀ es', .cancel id ∉ es' →
        let t := (s.after h e).play h es'
        (∀ o, t.outcome? id = some o → t.told? l = some o) ∧ t.reported.count id ≤ 1 ∧
        ∀ o, t.told? l = some o → ∃ N, ∀ n, N ≤ n → (t.steps h n).Completed id o) ∧
    (∀ gone es', s.CancelsRan h gone es' → ∃ es'',
      es''.filter Event.outside = es'.filter (fun e => e.outside && !e.cancels gone) ∧
      (s.play h es').without gone = (s.play h es'').without gone ∧
      ∀ id, id ∉ gone → (s.play h es').SameFor (s.play h es'') id) ∧
    ((∀ l, .forget l ∉ s.queue) →
      ∀ key, (s.flights.lookup key).isSome ↔ ∃ l, s.Unfinished key l) := by
  intro s
  have linked : s.Linked s.queue := linked_play h x es
  refine ⟨⟨fun key l l' => linked.unfinished_unique, fun e l job key => after_loads⟩, ?_, ?_,
    linked.flying_iff_unfinished⟩
  · intro id key e calls
    obtain ⟨l, found, keyed, called, _⟩ := calls.begins (h := h) linked
    refine ⟨l, found, keyed, fun es' spared => ?_⟩
    have linked' : ((s.after h e).play h es').Linked ((s.after h e).play h es').queue :=
      (linked.after e).play
    have called' := called.play (h := h) spared
    refine ⟨fun o => called'.outcome?, ?_, fun o => called'.completes linked'⟩
    obtain ⟨service, st, at_, _⟩ := called'
    by_cases ended : st.phase = .ended
    · have := linked'.reported id _ at_ rfl ended
      omega
    · have := linked'.unreported id fun job same _ => by
        rw [← Option.some.inj (at_.symm.trans same)]
        exact ended
      omega
  · intro gone es' cancels
    obtain ⟨es'', outside, same⟩ := exists_uncancelled es' (List.nil_subset gone) linked linked
      (by simp) (by simp) rfl cancels
    exact ⟨es'', outside, same, fun id stays => sameFor_of_without same stays⟩

-- The first caller is cancelled, and the second one still gets what was loaded for it.
example : let call : Event Unit Nat Nat := .submit 0 (.call [] [])
    let s := ({ state := () } : Scheduler Unit Nat Nat).play instant [call, call, .step, .step, .cancel 0]
    (s.steps instant 8).outcome? 0 = some (.error .cancelled) ∧
      (s.steps instant 8).outcome? 1 = some (.ok 7) :=
  ⟨rfl, rfl⟩

/-- A load whose outcome calls are given has ended and is not yet forgotten, and no other is. -/
theorem Linked.landed?_iff (linked : s.Linked s.queue) (service : Nat) (name : Text)
    (o : Except Failure V) : s.landed? service name = some o ↔
      ∃ l, s.Keyed (service, name) l ∧ s.told? l = some o ∧ .forget l ∈ s.queue := by
  simp only [landed?, Option.bind_eq_bind]
  constructor
  · intro landed
    obtain ⟨l, flying, told⟩ := Option.bind_eq_some_iff.mp landed
    obtain ⟨job, at_, lands⟩ := Option.bind_eq_some_iff.mp told
    obtain ⟨job', at_', isLoad⟩ := linked.flight _ l (mem_of_lookup flying)
    refine ⟨l, ⟨job', at_', isLoad⟩, told, ?_⟩
    have ended := ((Work.landed?_isSome job.work).mp (by rw [lands]; rfl)).2
    have := linked.landed _ l job (mem_of_lookup flying) at_ ended
    exact List.count_pos_iff.mp (by omega)
  · rintro ⟨l, ⟨job, at_, isLoad⟩, told, mem⟩
    obtain ⟨job', key, at_', isLoad', _, flying⟩ := linked.forget l mem
    obtain rfl := Option.some.inj (at_.symm.trans at_')
    obtain rfl := Option.some.inj (isLoad.symm.trans isLoad')
    rw [lookup_of_mem linked.keys flying]
    exact told

/-- **A load that has ended is given to calls until it is forgotten**: a call of a key that has no
unfinished load starts one exactly if no load of the key is still to be forgotten, and ends with the
outcome of that load otherwise. A request that is submitted when a load has ended never gets it. -/
theorem ended_load_given_iff_unforgotten (h : Host σ V) (x : σ) (es : List (Event σ V V)) :
    let s := ({ state := x } : Scheduler σ V V).play h es
    (∀ service name o, s.landed? service name = some o ↔
      ∃ l, s.Keyed (service, name) l ∧ s.told? l = some o ∧ .forget l ∈ s.queue) ∧
    (∀ id key e, s.Calls id key e → (∀ l, ¬s.Unfinished key l) →
      (s.Starts h e key ↔ ∀ l, s.Keyed key l → .forget l ∉ s.queue) ∧
      ∀ l, s.Keyed key l → .forget l ∈ s.queue →
        ∃ o, s.told? l = some o ∧ (s.after h e).outcome? id = some o) ∧
    ∀ l o key path es', s.told? l = some o →
      let t := (s.submit key.1 (.call key.2 path)).play h es'
      t.Calls s.jobs.length key .step →
        ∃ l', l' ≠ l ∧ (t.after h .step).Called s.jobs.length l' := by
  intro s
  have linked : s.Linked s.queue := linked_play h x es
  refine ⟨linked.landed?_iff, ?_, ?_⟩
  · intro id key e calls idle
    obtain ⟨l, found, ⟨load, at_, isLoad⟩, called, lands⟩ := calls.begins (h := h) linked
    have lookup : ∀ l', s.Keyed key l' → .forget l' ∈ s.queue → s.flights.lookup key = some l' := by
      rintro l' ⟨job, at_, isLoad⟩ mem
      obtain ⟨job', key', at_', isLoad', _, flying⟩ := linked.forget l' mem
      obtain rfl := Option.some.inj (at_.symm.trans at_')
      obtain rfl := Option.some.inj (isLoad.symm.trans isLoad')
      exact lookup_of_mem linked.keys flying
    refine ⟨⟨?_, fun forgotten => ?_⟩, ?_⟩
    · rintro ⟨l', new, load', at_', isLoad'⟩ l'' keyed mem
      cases (after_loads new at_' isLoad').1.symm.trans (lookup l'' keyed mem)
    · obtain flying | ⟨_, new⟩ := found
      · -- the load found has ended and would still have to be forgotten
        obtain ⟨job, at_l, isLoad⟩ := linked.flight key l (mem_of_lookup flying)
        by_cases ended : job.work.phase = .ended
        · have := linked.landed key l job (mem_of_lookup flying) at_l ended
          exact absurd (List.count_pos_iff.mp (by omega)) (forgotten l ⟨job, at_l, isLoad⟩)
        · exact absurd ⟨job, at_l, isLoad, ended⟩ (idle l)
      · exact ⟨l, new, load, at_, isLoad⟩
    · intro l' keyed mem
      have flying := lookup l' keyed mem
      obtain rfl : l' = l := by
        obtain flying' | ⟨grounded, _⟩ := found
        · exact Option.some.inj (flying.symm.trans flying')
        · cases grounded.symm.trans flying
      obtain ⟨job, _, at_l, isLoad, ended, _⟩ := linked.forget l' mem
      have lands' := (Work.landed?_isSome job.work).mpr
        ⟨Job.key?_isSome.symm.trans (by rw [isLoad]; rfl), ended⟩
      obtain ⟨o, landed⟩ := Option.isSome_iff_exists.mp lands'
      have told : s.told? l' = some o := by rw [told?, at_l, Option.bind_some, landed]
      exact ⟨o, told, lands o told⟩
  · intro l o key path es' told t calls
    obtain ⟨job, at_, landed⟩ := Option.bind_eq_some_iff.mp told
    have ended := ((Work.landed?_isSome job.work).mp (by rw [landed]; rfl)).2
    have at_' : (s.submit key.1 (.call key.2 path)).job? l = some job := by
      simpa [submit, spawn, push, job?, List.getElem?_append_left (lt_of_job? at_)] using at_
    obtain ⟨precedes, old⟩ := (linked.precedes at_ ended key.1 (.call key.2 path)).play (h := h)
      (lt_of_job? at_') es'
    have linked' : t.Linked t.queue := (linked.submitted key.1 _).play
    obtain ⟨l', found, _, called, _⟩ := calls.begins (h := h) linked'
    refine ⟨l', ?_, called⟩
    rintro rfl
    obtain flying | ⟨_, new⟩ := found
    · cases calls with
      | turn head _ => exact precedes.forgotten head key (mem_of_lookup flying)
    · exact absurd (List.getElem?_eq_none_iff.mp new) (Nat.not_le_of_lt old)

/-- A call can run after the load of its key has ended and start no load: its turn was queued before
the load ended, so it comes before the load is forgotten. -/
theorem ended_load_given_again : ¬∀ (es : List (Event Unit Nat Nat)) (id : Nat) (key : Nat × Text)
    (e : Event Unit Nat Nat),
    let s := ({ state := () } : Scheduler Unit Nat Nat).play instant es
    s.Calls id key e → (∀ l, ¬s.Unfinished key l) → s.Starts instant e key := by
  intro claim
  let call : Event Unit Nat Nat := .submit 0 (.call [] [])
  obtain ⟨l, new, load, at_, isLoad⟩ := claim [call, .step, call, .step] 2 (0, []) .step
    (.turn rfl rfl) (by
      rintro (_ | _ | _ | l) ⟨job, at_, isLoad, live⟩
      · cases at_
        cases isLoad
      · cases at_
        exact live rfl
      · cases at_
        cases isLoad
      · cases at_)
  cases (after_loads new at_ isLoad).1

end Scheduler

end Stencil
