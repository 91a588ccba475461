import CommandMetrics.Proofs.Concurrent.Cursor
import CommandMetrics.Proofs.Recording.EventLog
import Mathlib.Algebra.BigOperators.Group.Finset.Piecewise
import Mathlib.Data.Fintype.Basic
/-!
# Concurrent recording — no update is lost under any interleaving

Threads record into one metric set, each by a program of its own. The steps
that cannot be interrupted are a look-up and a single change of a cell;
between the two any thread may have its turn. Whatever the schedule, the
set is where playing the steps in the order in which they were taken leads
(`faithful_run`), since a cursor stays on the cell of its command. Counting
does not depend on that order, and each thread takes the steps of its own
program; so what the counters and buckets of a set have received is what
the programs say, added up (`no_lost_update`).
-/

namespace CommandMetrics

/-- Threads that record into one set. -/
structure Workers (Tid : Type) where
  set : MetricSet
  /-- The cell that a thread looked up last, by its series and position. -/
  cursor : Tid → Option (Series × Nat)
  /-- The steps that a thread has yet to take. -/
  rest : Tid → List Primitive
  /-- The steps that were taken, by whom and in which order. -/
  trace : List (Tid × Primitive)

variable {Tid : Type} [DecidableEq Tid]

/-- The steps of one thread in a trace. -/
def stepsOf (t : Tid) (trace : List (Tid × Primitive)) : List Primitive :=
  trace.filterMap fun (u, p) => if u = t then some p else none

theorem stepsOf_concat (t u : Tid) (trace : List (Tid × Primitive)) (p : Primitive) :
    stepsOf t (trace ++ [(u, p)]) = stepsOf t trace ++ if u = t then [p] else [] := by
  unfold stepsOf
  rw [List.filterMap_append]
  by_cases hu : u = t <;> simp [hu]

/-- The steps of a thread are steps of the trace. -/
theorem mem_of_mem_stepsOf {t : Tid} {trace : List (Tid × Primitive)} {p : Primitive}
    (h : p ∈ stepsOf t trace) : p ∈ trace.map Prod.snd := by
  obtain ⟨⟨u, q⟩, hmem, hq⟩ := List.mem_filterMap.1 h
  by_cases hu : u = t
  · simp only [if_pos hu, Option.some.injEq] at hq
    exact List.mem_map.2 ⟨(u, q), hmem, hq⟩
  · simp only [if_neg hu, reduceCtorEq] at hq

namespace Workers

/-- Before any step. -/
def start (set : MetricSet) (programs : Tid → List SetOperation) : Workers Tid :=
  { set
    cursor := fun _ => none
    rest := fun t => SetOperation.logSteps (programs t)
    trace := [] }

/-- **A thread has its turn**, and takes one step: it looks a cell up, or
changes the one it looked up last. -/
def step (w : Workers Tid) (t : Tid) : Workers Tid :=
  match w.rest t with
  | [] => w
  | p :: rest =>
    let moved :=
      { w with rest := Function.update w.rest t rest, trace := w.trace ++ [(t, p)] }
    match p with
    | .find s command =>
      let (set, i) := w.set.touch s command
      { moved with set, cursor := Function.update w.cursor t (some (s, i)) }
    | change =>
      match w.cursor t with
      | some (s, i) => { moved with set := w.set.modifyAt s i change }
      | none => moved

/-- Threads have their turns by a schedule. -/
def run (set : MetricSet) (programs : Tid → List SetOperation) (schedule : List Tid) :
    Workers Tid :=
  schedule.foldl step (start set programs)

/-! ## Turns -/

/-- A turn takes the next step of its thread, if there is one, and no step of
another. -/
theorem rest_step (w : Workers Tid) (t u : Tid) :
    (w.step t).rest u = if u = t then (w.rest u).tail else w.rest u := by
  unfold step
  split
  · rename_i hrest
    by_cases hu : u = t
    · subst hu
      rw [if_pos rfl, hrest, List.tail_nil]
    · rw [if_neg hu]
  · rename_i p rest hrest
    have hupdate : Function.update w.rest t rest u =
        if u = t then (w.rest u).tail else w.rest u := by
      by_cases hu : u = t
      · subst hu
        rw [if_pos rfl, hrest, Function.update_self, List.tail_cons]
      · rw [if_neg hu, Function.update_of_ne hu]
    rw [← hupdate]
    cases p with
    | find s command => rfl
    | _ =>
      dsimp only
      split <;> rfl

/-- **A thread is as far as it had turns**, whatever the others do. -/
theorem rest_run (set : MetricSet) (programs : Tid → List SetOperation) (schedule : List Tid)
    (t : Tid) :
    (run set programs schedule).rest t =
      (SetOperation.logSteps (programs t)).drop (schedule.count t) := by
  induction schedule using List.reverseRecOn with
  | nil => rfl
  | append_singleton schedule u ih =>
    unfold run at *
    rw [List.foldl_append, List.foldl_cons, List.foldl_nil, rest_step, ih, List.count_append]
    by_cases hu : t = u
    · subst hu
      rw [if_pos rfl, List.tail_drop, List.count_singleton_self]
    · rw [if_neg hu, List.count_singleton, if_neg (by simpa using Ne.symm hu), Nat.add_zero]

/-! ## What every turn keeps -/

/-- **The set is where the steps that were taken lead**, each thread has
taken the first steps of its program, and the cursor of a thread is on the
cell that its next change is meant for. -/
structure Faithful (m : MetricSet) (programs : Tid → List SetOperation) (w : Workers Tid) :
    Prop where
  set : w.set = m.play (w.trace.map Prod.snd)
  progress : ∀ t, stepsOf t w.trace ++ w.rest t = SetOperation.logSteps (programs t)
  led : ∀ t, ∃ target, Led target (w.rest t) ∧ ∀ s command, target = some (s, command) →
    ∃ i, w.cursor t = some (s, i) ∧ (w.set.commands s)[i]? = some command

variable {m : MetricSet} {programs : Tid → List SetOperation} {w : Workers Tid} {t : Tid}
variable {p : Primitive} {rest : List Primitive}

theorem faithful_start : (start m programs).Faithful m programs where
  set := rfl
  progress := fun _ => rfl
  led := fun _ => ⟨none, SetOperation.led_logSteps _ none, fun _ _ h => nomatch h⟩

/-- A turn takes the next step of its thread, and leaves the cursor of the
thread on the cell of that step. -/
theorem Faithful.step_eq (hw : w.Faithful m programs) (hm : ∀ s, (m.commands s).Nodup)
    (hrest : w.rest t = p :: rest) :
    ∃ i, ((w.set.apply p).commands p.series)[i]? = some p.command ∧
      w.step t =
        { set := w.set.apply p
          cursor := Function.update w.cursor t (some (p.series, i))
          rest := Function.update w.rest t rest
          trace := w.trace ++ [(t, p)] } := by
  obtain ⟨target, hled, hcursor⟩ := hw.led t
  rw [hrest] at hled
  cases hfind : p.isFind with
  | true =>
    -- a look-up puts the cursor on the cell that it found or made
    cases p with
    | find s command =>
      refine ⟨(w.set.touch s command).2, ?_, ?_⟩
      · rw [← MetricSet.touch_eq_apply]
        exact MetricSet.getElem?_commands_touch
      · unfold step
        simp only [hrest]
        rw [← MetricSet.touch_eq_apply]
        rfl
    | _ => cases hfind
  | false =>
    -- a change acts where the cursor is, which is where its command still is
    have htarget : target = some (p.series, p.command) :=
      hled.1.resolve_left (by rw [hfind]; exact Bool.false_ne_true)
    obtain ⟨i, hi, hcommand⟩ := hcursor _ _ htarget
    have hnodup : (w.set.commands p.series).Nodup := by
      rw [hw.set]
      exact MetricSet.nodup_commands_play hm _ _
    refine ⟨i, MetricSet.getElem?_commands_apply hcommand, ?_⟩
    rw [← MetricSet.modifyAt_eq_apply hnodup hcommand, ← hi, Function.update_eq_self]
    unfold step
    simp only [hrest]
    cases p with
    | find s command => cases hfind
    | _ => simp only [hi]

/-- **Every turn keeps the workers faithful.** -/
theorem Faithful.step (hw : w.Faithful m programs) (hm : ∀ s, (m.commands s).Nodup) (t : Tid) :
    (w.step t).Faithful m programs := by
  cases hrest : w.rest t with
  | nil =>
    have hstays : w.step t = w := by
      unfold Workers.step
      rw [hrest]
    rwa [hstays]
  | cons p rest =>
    obtain ⟨i, hi, hstep⟩ := hw.step_eq hm hrest
    rw [hstep]
    refine ⟨?_, fun u => ?_, fun u => ?_⟩
    · rw [List.map_append, List.map_singleton, MetricSet.play_concat, ← hw.set]
    -- the step moves from what is left of its thread to what was taken
    · have hprogress := hw.progress u
      rw [stepsOf_concat]
      dsimp only
      by_cases hu : t = u
      · subst hu
        rw [if_pos rfl, Function.update_self, ← hprogress, hrest]
        simp
      · rw [if_neg hu, List.append_nil, Function.update_of_ne (Ne.symm hu), hprogress]
    · obtain ⟨target, hled, hcursor⟩ := hw.led u
      by_cases hu : u = t
      · subst hu
        rw [hrest] at hled
        refine ⟨some (p.series, p.command), ?_, fun s command heq => ?_⟩
        · dsimp only
          rw [Function.update_self]
          exact hled.2
        · cases heq
          exact ⟨i, Function.update_self .., hi⟩
      -- the cursor of another thread still points to its command
      · refine ⟨target, ?_, fun s command heq => ?_⟩
        · dsimp only
          rwa [Function.update_of_ne hu]
        · obtain ⟨j, hj, hcommand⟩ := hcursor s command heq
          exact ⟨j, (Function.update_of_ne hu ..).trans hj,
            MetricSet.getElem?_commands_apply hcommand⟩

/-- **Whatever the schedule, the workers are faithful.** -/
theorem faithful_run (hm : ∀ s, (m.commands s).Nodup) (programs : Tid → List SetOperation)
    (schedule : List Tid) : (run m programs schedule).Faithful m programs := by
  induction schedule using List.reverseRecOn with
  | nil => exact faithful_start
  | append_singleton schedule t ih =>
    unfold run at *
    rw [List.foldl_append]
    exact ih.step hm t

/-- A thread that is done has taken the steps of its program. -/
theorem Faithful.stepsOf_eq (hw : w.Faithful m programs) (hdone : w.rest t = []) :
    stepsOf t w.trace = SetOperation.logSteps (programs t) := by
  have hprogress := hw.progress t
  rwa [hdone, List.append_nil] at hprogress

end Workers

/-! ## Reading a trace thread by thread -/

/-- **Counting over a trace adds up over the threads.** -/
theorem countP_trace [Fintype Tid] (q : Primitive → Bool) (trace : List (Tid × Primitive)) :
    (trace.map Prod.snd).countP q = ∑ t, (stepsOf t trace).countP q := by
  induction trace using List.reverseRecOn with
  | nil => simp [stepsOf]
  | append_singleton trace step ih =>
    obtain ⟨u, p⟩ := step
    have hstep : ∀ t, (stepsOf t (trace ++ [(u, p)])).countP q =
        (stepsOf t trace).countP q + if u = t then [p].countP q else 0 := fun t => by
      rw [stepsOf_concat, List.countP_append]
      by_cases hu : u = t <;> simp [hu]
    simp only [hstep, Finset.sum_add_distrib, ← ih, Finset.sum_ite_eq, Finset.mem_univ, if_true,
      List.map_append, List.countP_append, List.map_cons, List.map_nil]

/-- **What is read last in a trace is read last of some thread**, or nothing
is read of any. -/
theorem exists_getLast?_trace {α : Type} (f : Primitive → Option α)
    (trace : List (Tid × Primitive)) :
    (∃ t x, ((stepsOf t trace).filterMap f).getLast? = some x ∧
      ((trace.map Prod.snd).filterMap f).getLast? = some x) ∨
    (∀ t, (stepsOf t trace).filterMap f = []) ∧ (trace.map Prod.snd).filterMap f = [] := by
  induction trace using List.reverseRecOn with
  | nil => exact .inr ⟨fun _ => rfl, rfl⟩
  | append_singleton trace step ih =>
    obtain ⟨u, p⟩ := step
    cases hp : f p with
    | some x =>
      refine .inl ⟨u, x, ?_, ?_⟩
      · rw [stepsOf_concat, if_pos rfl, List.filterMap_append]
        simp [hp]
      · rw [List.map_append, List.filterMap_append]
        simp [hp]
    | none =>
      have hall : ((trace ++ [(u, p)]).map Prod.snd).filterMap f =
          (trace.map Prod.snd).filterMap f := by
        rw [List.map_append, List.filterMap_append]
        simp [hp]
      have heach : ∀ t, (stepsOf t (trace ++ [(u, p)])).filterMap f =
          (stepsOf t trace).filterMap f := fun t => by
        rw [stepsOf_concat, List.filterMap_append]
        by_cases hu : u = t <;> simp [hu, hp]
      simp only [hall, heach]
      exact ih

/-! ## What a set has received -/

open SetOperation in
/-- **A command is settled** when what its cells have received is what was
called before and by all threads together: it has one cell in every series,
each counter went up once for each call of its event, each bucket once for
each accepted run duration that falls into it, and the gauge shows the last
total duration that some thread had accepted. -/
structure Workers.Settled [Fintype Tid] (w : Workers Tid) (earlier : List SetOperation)
    (programs : Tid → List SetOperation) (command : Text) : Prop where
  one_cell : ∀ s, (w.set.commands s).count command = 1
  counter : ∀ e, (w.set.counters.get e).get? command =
    some (Number.ticks (calls earlier e command + ∑ t, calls (programs t) e command))
  bucket : ∃ sum, w.set.runDuration.get? command = some
    ⟨sum, (List.range w.set.buckets.length).map fun i =>
      Number.ticks (Histogram.binned w.set.buckets (observations earlier command) i +
        ∑ t, Histogram.binned w.set.buckets (observations (programs t) command) i)⟩
  gauge :
    (∃ t x, (totals (programs t) command).getLast? = some x ∧
      w.set.totalDuration.get? command = some x) ∨
    (∀ t, totals (programs t) command = []) ∧
      w.set.totalDuration.get? command = some ((totals earlier command).getLast?.getD 0)

/-- What was observed is counted over a trace as over its steps. -/
theorem binned_trace [Fintype Tid] (buckets : List Number) (command : Text) (i : Nat)
    (trace : List (Tid × Primitive)) :
    Histogram.binned buckets ((trace.map Prod.snd).filterMap (Primitive.counted? command)) i =
      ∑ t, Histogram.binned buckets ((stepsOf t trace).filterMap (Primitive.counted? command)) i
    := by
  unfold Histogram.binned
  simp only [List.countP_filterMap]
  exact countP_trace _ trace

namespace Workers

section Done

variable {m : MetricSet} {earlier : List SetOperation}
variable {programs : Tid → List SetOperation} {w : Workers Tid} {command : Text}

/-- Where workers that set out from a set in use have come to, told from the
set as it was constructed. -/
theorem Faithful.set_eq (hw : w.Faithful (m.play (SetOperation.logSteps earlier)) programs) :
    w.set = m.play (SetOperation.logSteps earlier ++ w.trace.map Prod.snd) := by
  rw [MetricSet.play_append, ← hw.set]

/-- A command in use has its cell in every series. -/
theorem Faithful.mem_commands (hm : m.Unused)
    (hw : w.Faithful (m.play (SetOperation.logSteps earlier)) programs)
    (hdone : ∀ t, w.rest t = [])
    (hused : (∃ op ∈ earlier, op.uses command = true) ∨
      ∃ t, ∃ op ∈ programs t, op.uses command = true) (s : Series) :
    command ∈ w.set.commands s := by
  rw [hw.set_eq]
  refine (MetricSet.mem_commands_play hm _ s command).2 ⟨.find s command, ?_, rfl, rfl⟩
  rcases hused with ⟨op, hop, huses⟩ | ⟨t, op, hop, huses⟩
  · exact List.mem_append_left _ (List.mem_flatMap.2 ⟨op, hop, SetOperation.find_mem_steps huses s⟩)
  -- a thread that is done has looked up what its program uses
  · have hown : .find s command ∈ stepsOf t w.trace := by
      rw [hw.stepsOf_eq (hdone t)]
      exact List.mem_flatMap.2 ⟨op, hop, SetOperation.find_mem_steps huses s⟩
    exact List.mem_append_right _ (mem_of_mem_stepsOf hown)

/-- A gauge shows the last total duration of the thread that set it last, or
what it showed before any of them set it. -/
theorem Faithful.get_totalDuration (hm : m.Unused)
    (hw : w.Faithful (m.play (SetOperation.logSteps earlier)) programs)
    (hdone : ∀ t, w.rest t = []) (command : Text) :
    (∃ t x, (SetOperation.totals (programs t) command).getLast? = some x ∧
      (w.set.totalDuration.get? command).getD 0 = x) ∨
    (∀ t, SetOperation.totals (programs t) command = []) ∧
      (w.set.totalDuration.get? command).getD 0 =
        (SetOperation.totals earlier command).getLast?.getD 0 := by
  have hsteps := fun t => hw.stepsOf_eq (hdone t)
  have htotal := fun log =>
    SetOperation.filterMap_logSteps log fun op => op.filterMap_total?_steps command
  have hlast := exists_getLast?_trace (Primitive.total? command) w.trace
  simp only [hsteps, htotal] at hlast
  rw [hw.set_eq, MetricSet.get_totalDuration_play hm, List.filterMap_append, List.getLast?_append,
    htotal]
  rcases hlast with ⟨t, x, hown, hall⟩ | ⟨hown, hall⟩
  · refine .inl ⟨t, x, hown, ?_⟩
    rw [hall]
    rfl
  · refine .inr ⟨hown, ?_⟩
    rw [hall]
    rfl

variable [Fintype Tid]

/-- A counter has received what was called before and by all threads. -/
theorem Faithful.get_counters (hm : m.Unused)
    (hw : w.Faithful (m.play (SetOperation.logSteps earlier)) programs)
    (hdone : ∀ t, w.rest t = []) (e : Event) (command : Text) :
    ((w.set.counters.get e).get? command).getD 0 =
      Number.ticks (SetOperation.calls earlier e command +
        ∑ t, SetOperation.calls (programs t) e command) := by
  have hsteps := fun t => hw.stepsOf_eq (hdone t)
  rw [hw.set_eq, MetricSet.get_counters_play hm, List.count_append, SetOperation.count_logSteps]
  -- increments are counted thread by thread, whatever stands between them
  have htrace : (w.trace.map Prod.snd).count (.increment e command) =
      ∑ t, SetOperation.calls (programs t) e command := by
    rw [List.count_eq_countP, countP_trace]
    simp only [hsteps, ← List.count_eq_countP, SetOperation.count_logSteps]
  rw [htrace]

/-- So has a bucket. -/
theorem Faithful.binned (hw : w.Faithful (m.play (SetOperation.logSteps earlier)) programs)
    (hdone : ∀ t, w.rest t = []) (buckets : List Number) (command : Text) (i : Nat) :
    Histogram.binned buckets ((SetOperation.logSteps earlier ++ w.trace.map Prod.snd).filterMap
        (Primitive.counted? command)) i =
      Histogram.binned buckets (SetOperation.observations earlier command) i +
        ∑ t, Histogram.binned buckets (SetOperation.observations (programs t) command) i := by
  have hsteps := fun t => hw.stepsOf_eq (hdone t)
  have hcounted := fun log =>
    SetOperation.filterMap_logSteps log fun op => op.filterMap_counted?_steps command
  have htrace := binned_trace buckets command i w.trace
  simp only [hsteps, hcounted] at htrace
  rw [List.filterMap_append, hcounted]
  unfold Histogram.binned at htrace ⊢
  rw [List.countP_append, htrace]
  rfl

/-- **Faithful workers that are done have settled every command in use.** -/
theorem Faithful.settled (hm : m.Unused)
    (hw : w.Faithful (m.play (SetOperation.logSteps earlier)) programs)
    (hdone : ∀ t, w.rest t = [])
    (hused : (∃ op ∈ earlier, op.uses command = true) ∨
      ∃ t, ∃ op ∈ programs t, op.uses command = true) :
    w.Settled earlier programs command := by
  have hmem := hw.mem_commands hm hdone hused
  refine ⟨fun s => ?_, fun e => ?_, ?_, ?_⟩
  · refine List.count_eq_one_of_mem ?_ (hmem s)
    rw [hw.set_eq]
    exact hm.nodup_commands_play _ s
  · rw [Children.get?_eq_some_getD (hmem (.events e)) 0, hw.get_counters hm hdone]
  · have hbuckets : w.set.buckets = m.buckets := by
      rw [hw.set_eq, MetricSet.buckets_play]
    have hget := MetricSet.get_runDuration_play hm
      (SetOperation.logSteps earlier ++ w.trace.map Prod.snd) command
    rw [← hw.set_eq] at hget
    -- the sum depends on the schedule, as numbers are rounded, and is left open
    refine ⟨((SetOperation.logSteps earlier ++ w.trace.map Prod.snd).filterMap
      (Primitive.summed? command)).foldl (· + ·) 0, ?_⟩
    rw [Children.get?_eq_some_getD (hmem .runDuration) (.empty m.buckets), hget, hbuckets]
    simp only [Histogram.tallied, hw.binned hdone]
  · rw [Children.get?_eq_some_getD (hmem .totalDuration) 0]
    rcases hw.get_totalDuration hm hdone command with ⟨t, x, hown, hx⟩ | ⟨hown, hx⟩
    · exact .inl ⟨t, x, hown, congrArg some hx⟩
    · exact .inr ⟨hown, congrArg some hx⟩

end Done

/-- **No update is lost.** Threads record into a set that was constructed and
used for a while, and their steps are interleaved in any way. Once they are
done, every command in use is settled: every call of every thread is counted,
once and in its own cell. So counters and buckets are the same for every
schedule. -/
theorem no_lost_update [Fintype Tid] {h made : Host} {place : RegistryId} {bounds : Option Value}
    {config : Option Config} {id : SetId}
    (hmade : h.construct place bounds config = (made, .ok id)) (earlier : List SetOperation)
    {set : MetricSet} (hset : (made.operateAll id earlier).set? id = some set)
    (programs : Tid → List SetOperation) (schedule : List Tid)
    (hdone : ∀ t, (run set programs schedule).rest t = []) {command : Text}
    (hused : (∃ op ∈ earlier, op.uses command = true) ∨
      ∃ t, ∃ op ∈ programs t, op.uses command = true) :
    (run set programs schedule).Settled earlier programs command ∧
      ∀ other, (∀ t, (run set programs other).rest t = []) →
        (∀ e, ((run set programs other).set.counters.get e).get? command =
          ((run set programs schedule).set.counters.get e).get? command) ∧
        ((run set programs other).set.runDuration.get? command).map Histogram.counts =
          ((run set programs schedule).set.runDuration.get? command).map Histogram.counts := by
  obtain ⟨m, hm, hunused, -⟩ := Host.set?_construct hmade
  obtain ⟨registered, hplayed⟩ := Host.set?_operateAll hm earlier
  rw [hset, Option.some.injEq, ← MetricSet.play_registered] at hplayed
  -- whether the set is registered makes no difference to its cells
  have hunused' : ({ m with registered } : MetricSet).Unused := fun s => hunused s
  have hnodup : ∀ s, (set.commands s).Nodup := fun s => by
    rw [hplayed]
    exact hunused'.nodup_commands_play _ s
  have hsettled : ∀ schedule, (∀ t, (run set programs schedule).rest t = []) →
      (run set programs schedule).Settled earlier programs command := fun schedule hdone => by
    have hfaithful := faithful_run hnodup programs schedule
    rw [hplayed] at hfaithful hdone ⊢
    exact hfaithful.settled hunused' hdone hused
  have hbuckets : ∀ schedule, (run set programs schedule).set.buckets = set.buckets :=
    fun schedule => by
      rw [(faithful_run hnodup programs schedule).set, MetricSet.buckets_play]
  refine ⟨hsettled schedule hdone, fun other hother => ⟨fun e => ?_, ?_⟩⟩
  · rw [(hsettled other hother).counter, (hsettled schedule hdone).counter]
  · obtain ⟨sum, hsum⟩ := (hsettled other hother).bucket
    obtain ⟨sum', hsum'⟩ := (hsettled schedule hdone).bucket
    rw [hsum, hsum', hbuckets, hbuckets]
    rfl

/-- Two threads that take turns step by step, each making a recorder of the
same command and counting an attempt on it: both attempts are there. -/
theorem no_lost_update_pair :
    let programs : Bool → List SetOperation := fun _ =>
      [.makeRecorder .direct (.text "ping"), .call "ping" "record_attempt" []]
    ∃ made set, Host.initial.construct .default none none = (made, .ok ⟨0⟩) ∧
      made.set? ⟨0⟩ = some set ∧
      ((run set programs (List.replicate 13 [false, true]).flatten).set.counters.get
        .attempt).get? "ping" = some (Number.ticks 2) := by
  intro programs
  have hresult : (Host.initial.construct .default none none).2.toOption = some ⟨0⟩ := by
    decide +kernel
  obtain ⟨made, hmade⟩ := Host.exists_eq_ok hresult
  obtain ⟨set, hset, -⟩ := Host.set?_construct hmade
  have hturns : ∀ t, (SetOperation.logSteps (programs t)).drop
      ((List.replicate 13 [false, true]).flatten.count t) = [] := by
    decide +kernel
  have hused : ∃ t, ∃ op ∈ programs t, op.uses "ping" = true :=
    ⟨false, _, List.mem_cons_self, by decide⟩
  obtain ⟨hsettled, -⟩ := no_lost_update hmade [] hset programs _
    (fun t => (rest_run set programs _ t).trans (hturns t)) (.inr hused)
  refine ⟨made, set, hmade, hset, ?_⟩
  rw [hsettled.counter]
  congr 2

end Workers

end CommandMetrics
