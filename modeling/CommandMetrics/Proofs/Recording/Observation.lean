import CommandMetrics.Proofs.Recording.Agreement
import CommandMetrics.Proofs.Recording.Visibility
/-!
# Observations — which run durations are counted

A run duration that is accepted is added to the sum of its command. It is
counted in exactly one bucket, the first whose bound it does not exceed;
since the last bound is infinite there is one for every number. But "not a
number" is accepted as well, and it exceeds no bound and is below none: the
sum takes it in and no bucket does (`Histogram.TookIn`). So the count of a
histogram is how many of the accepted durations were numbers.
-/

namespace CommandMetrics

/-! ## The bucket of an observation -/

namespace Histogram

variable {buckets : List Number} {x : Number} {h : Histogram}

/-- **Every number has a bucket** where the last one is infinite. -/
theorem exists_bucketOf?_eq_some (hlast : buckets.getLast? = some (.infinity false))
    (hx : x.isNaN = false) : ∃ bucket, bucketOf? buckets x = some bucket := by
  refine Option.isSome_iff_exists.1 ?_
  rw [bucketOf?, List.findIdx?_isSome, List.any_eq_true]
  exact ⟨_, List.mem_of_getLast? hlast, decide_eq_true (Number.le_infinity_iff.2 hx)⟩

/-- "Not a number" has none. -/
theorem bucketOf?_eq_none (hx : x.isNaN = true) : bucketOf? buckets x = none := by
  rw [bucketOf?, List.findIdx?_eq_none_iff]
  refine fun bound _ => decide_eq_false fun hle => ?_
  rw [Number.isNaN_of_le hle] at hx
  cases hx

/-- **A histogram took an observation in.** The sum did so in any case. A
number was counted in one bucket, up to whose bound it is and up to no
bound before; what is no number was counted nowhere. -/
structure TookIn (before : Histogram) (buckets : List Number) (x : Number) (after : Histogram) :
    Prop where
  sum : after.sum = before.sum + x
  counted : x.isNaN = false → ∃ bucket bound, buckets[bucket]? = some bound ∧ x ≤ bound ∧
    (∀ i < bucket, ∀ lower, buckets[i]? = some lower → ¬ x ≤ lower) ∧
    after.counts = before.counts.modify bucket (· + 1)
  dropped : x.isNaN = true → after.counts = before.counts

/-- **Observing takes an observation in.** -/
theorem tookIn_observe (hlast : buckets.getLast? = some (.infinity false)) (x : Number)
    (h : Histogram) : h.TookIn buckets x (observe buckets x h) where
  sum := by
    unfold observe
    split <;> rfl
  counted hx := by
    obtain ⟨bucket, hbucket⟩ := exists_bucketOf?_eq_some hlast hx
    obtain ⟨hlt, hle, hbefore⟩ := bucketOf?_eq_some_iff.1 hbucket
    refine ⟨bucket, buckets[bucket], List.getElem?_eq_getElem hlt, hle,
      fun i hi lower hlower => ?_, ?_⟩
    · obtain ⟨hilt, rfl⟩ := List.getElem?_eq_some_iff.1 hlower
      exact hbefore i hi
    · simp only [observe, hbucket]
      rfl
  dropped hx := by
    simp only [observe, bucketOf?_eq_none hx]
    rfl

-- numbers are counted here, never computed
attribute [local irreducible] Number.ofInt Number.add

/-- A number more, and the count goes up by one. -/
theorem Holds.count_concat {after : Histogram} {xs : List Number} (hbefore : h.Holds buckets xs)
    (hafter : after.Holds buckets (xs ++ [x])) (hx : x.isNaN = false)
    (hlen : xs.length < twoPow 53) : after.count = h.count + 1 := by
  have hle : xs.countP (fun x => !x.isNaN) ≤ xs.length := List.countP_le_length
  have hcount : (xs ++ [x]).countP (fun x => !x.isNaN) = xs.countP (fun x => !x.isNaN) + 1 := by
    simp [List.countP_append, hx]
  rw [hbefore.count (by omega), hafter.count (by rw [List.length_append]; exact hlen), hcount]
  exact (Number.ofInt_add_ofInt (n := 1) (by omega)).symm

/-- **Where all observations are numbers, the infinite bucket tells how many
there are.** -/
theorem Holds.getLast?_cumulative {xs : List Number} (hholds : h.Holds buckets xs)
    (hlast : buckets.getLast? = some (.infinity false)) (hxs : ∀ x ∈ xs, x.isNaN = false)
    (hlen : xs.length ≤ twoPow 53) :
    h.cumulative.getLast? = some (Number.ofInt xs.length) := by
  have hall : (xs.countP fun x => decide (x ≤ .infinity false)) = xs.length :=
    List.countP_eq_length.2 fun x hx => decide_eq_true (Number.le_infinity_iff.2 (hxs x hx))
  rw [hholds.cumulative hlen, List.getLast?_map, hlast, Option.map_some, hall]

end Histogram

/-! ## Calls that are accepted -/

/-- **A run duration is accepted exactly if it is one value that has seconds.** -/
theorem Call.verdict_runDuration_eq_ok_iff {arguments : List Value} {kind : CollectorKind} :
    verdict ⟨.runDuration, arguments⟩ kind = .ok () ↔
      ∃ duration x, arguments = [duration] ∧ Duration.seconds duration = .ok x := by
  constructor
  · intro hok
    match arguments with
    | [duration] =>
      cases hseconds : Duration.seconds duration with
      | ok x => exact ⟨duration, x, rfl, hseconds⟩
      | error fault =>
        simp [verdict, Method.signal, Signal.verdict, hseconds, Except.map, Except.mapError] at hok
    | [] => cases hok
    | first :: second :: rest => cases hok
  · rintro ⟨duration, x, rfl, hseconds⟩
    simp [verdict, Method.signal, Signal.verdict, hseconds, Except.map, Except.mapError]

/-- A command that is put to use is used. -/
theorem SetOperation.exists_uses_of_mem_names {log : List SetOperation} {command : Text}
    (hmem : command ∈ names log) : ∃ op ∈ log, op.uses command = true := by
  obtain ⟨op, hop, hensured⟩ := List.mem_filterMap.1 hmem
  refine ⟨op, hop, ?_⟩
  cases op with
  | makeRecorder route name =>
    obtain ⟨rfl, hne⟩ := RecorderRoute.check_eq_ok_iff.1 (toOption_eq_some_iff.1 hensured)
    simp [uses, hne]
  | ensure other => simpa [uses, ensured?] using hensured
  | _ => cases hensured

namespace Host

variable {h : Host} {acts : List Act} {r : Recorder}

/-- The set of a recorder is there. -/
theorem exists_set?_of_mem_recordersOf (hr : r ∈ h.recordersOf acts) :
    ∃ m, (h.run acts).set? r.set = some m := by
  obtain ⟨before, act, later, rfl, hmade⟩ := exists_act_of_mem_recordersOf hr
  obtain ⟨⟨m, hset⟩, -⟩ := of_mem_recorders hmade
  obtain ⟨m', hset', -⟩ := exists_set?_run hset (act :: later)
  exact ⟨m', by rwa [run_append]⟩

/-- A command that was put to use has a cell in every series. -/
theorem mem_commands_run {id : SetId} {m : MetricSet} {command : Text}
    (hset : (initial.run acts).set? id = some m)
    (hcommand : command ∈ SetOperation.names (logOf id initial acts)) (s : Series) :
    command ∈ m.commands s := by
  obtain ⟨new, b, hnew, rfl⟩ := exists_new_of_run hset
  obtain ⟨op, hop, huses⟩ := SetOperation.exists_uses_of_mem_names hcommand
  refine (MetricSet.mem_commands_play hnew.unused _ s command).2 ⟨.find s command, ?_, rfl, rfl⟩
  exact List.mem_flatMap.2 ⟨op, hop, SetOperation.find_mem_steps huses s⟩

/-- **The cells of a recorder's command account for the log.** -/
theorem accounts_of_mem_recordersOf {m : MetricSet} (hr : r ∈ initial.recordersOf acts)
    (hset : (initial.run acts).set? r.set = some m) :
    m.Accounts (logOf r.set initial acts) r.command := by
  have hused := SetOperation.exists_uses_of_mem_names (mem_names_of_mem_recordersOf hr)
  rw [← List.append_nil (logOf r.set initial acts)] at hused ⊢
  exact accounts_play_of_run hset [] hused

/-- A call of a recorder goes to the log of its set. -/
theorem logOf_concat_call {m : MetricSet} (hset : (h.run acts).set? r.set = some m)
    (method : String) (arguments : List Value) :
    logOf r.set h (acts ++ [.call (.recorder r) method arguments]) =
      logOf r.set h acts ++ [.call r.command method arguments] := by
  rw [logOf_append, logOf, hset]
  simp [logOf, Act.operations]

/-- **After a call of a recorder** its cells account for the call as well. -/
theorem accounts_call {m : MetricSet} {method : String} {arguments : List Value}
    (hr : r ∈ initial.recordersOf acts)
    (hset : ((initial.run acts).call (.recorder r) method arguments).1.set? r.set = some m) :
    m.Accounts (logOf r.set initial acts ++ [.call r.command method arguments]) r.command := by
  obtain ⟨before, hbefore⟩ := exists_set?_of_mem_recordersOf hr
  have haccounts := accounts_of_mem_recordersOf
    (mem_recordersOf_append hr [.call (.recorder r) method arguments])
    (by rw [run_concat]; exact hset)
  rwa [logOf_concat_call hbefore] at haccounts

/-- **What a recorder does with a run duration** that has seconds: the
histogram of its command observes them. -/
theorem set?_call_runDuration {m : MetricSet} {before : Histogram} {duration : Value} {x : Number}
    (hset : h.set? r.set = some m) (hget : m.runDuration.get? r.command = some before)
    (hseconds : Duration.seconds duration = .ok x) :
    ∃ m', (h.call (.recorder r) Method.runDuration.name [duration]).1.set? r.set = some m' ∧
      m'.buckets = m.buckets ∧
      m'.runDuration.get? r.command = some (Histogram.observe m.buckets x before) := by
  have hupdate : (m.record r.command (.runDuration duration)).1.runDuration =
      m.runDuration.update r.command (.empty m.buckets) (Histogram.observe m.buckets x) := by
    simp only [MetricSet.record, hseconds]
    rfl
  refine ⟨(m.record r.command (.runDuration duration)).1, ?_, ?_, ?_⟩
  · simp only [call, collectorKind?, CollectorKind.signal?_name, Method.signal, Except.map, report,
      hset]
    exact set?_putSet_self hset _
  · rw [MetricSet.record_eq_play]
    exact MetricSet.buckets_play m _
  · rw [hupdate, Children.get?_update, if_pos rfl, hget, Option.getD_some]

open SetOperation in
/-- **No run duration that is a number is dropped.** After any run, whatever
a recorder accepts as a run duration has seconds. They are added to the sum
of its command, and if they are a number they are counted in exactly one
bucket, so the count goes up by one. As long as all that was accepted so far
were numbers, the infinite bucket tells how many there were; in any case it
tells how many of them were. What is no number is in the sum and in no
bucket. -/
theorem run_duration_counted {arguments : List Value} (hr : r ∈ initial.recordersOf acts)
    (haccepted : ((initial.run acts).call (.recorder r) Method.runDuration.name arguments).2 =
      .ok ()) :
    ∃ duration x xs m m' before after,
      arguments = [duration] ∧ Duration.seconds duration = .ok x ∧
      observations (logOf r.set initial acts) r.command = xs ∧
      observations (logOf r.set initial
        (acts ++ [.call (.recorder r) Method.runDuration.name arguments])) r.command = xs ++ [x] ∧
      (initial.run acts).set? r.set = some m ∧
      ((initial.run acts).call (.recorder r) Method.runDuration.name arguments).1.set? r.set =
        some m' ∧
      m.runDuration.get? r.command = some before ∧ m'.runDuration.get? r.command = some after ∧
      before.TookIn m.buckets x after ∧ after.Holds m.buckets (xs ++ [x]) ∧
      (x.isNaN = false → xs.length < twoPow 53 → after.count = before.count + 1) ∧
      ((∀ y ∈ xs ++ [x], y.isNaN = false) → (xs ++ [x]).length ≤ twoPow 53 →
        after.cumulative.getLast? = some (Number.ofInt (xs ++ [x]).length)) := by
  obtain ⟨m, hset⟩ := exists_set?_of_mem_recordersOf hr
  obtain ⟨duration, x, rfl, hseconds⟩ := Call.verdict_runDuration_eq_ok_iff.1
    ((call_recorder_snd hset r.command ⟨.runDuration, arguments⟩).symm.trans haccepted)
  obtain ⟨before, hget, hbefore⟩ := (accounts_of_mem_recordersOf hr hset).histogram
  obtain ⟨m', hset', hbuckets, hget'⟩ := set?_call_runDuration hset hget hseconds
  -- the log goes on with an observation
  have hobserved : (SetOperation.call r.command Method.runDuration.name [duration]).observation?
      r.command = some x := seconds?_eq_some_iff.2 ⟨duration, rfl, hseconds⟩
  have hlog : observations (logOf r.set initial
      (acts ++ [.call (.recorder r) Method.runDuration.name [duration]])) r.command =
        observations (logOf r.set initial acts) r.command ++ [x] := by
    rw [logOf_concat_call hset, observations, List.filterMap_append,
      List.filterMap_cons_some hobserved]
    rfl
  have hmade : r ∈ initial.recordersOf
      (acts ++ [.call (.recorder r) Method.runDuration.name [duration]]) := by
    rw [recordersOf_append]
    exact List.mem_append_left _ hr
  obtain ⟨after, hafter, hholds⟩ := (accounts_of_mem_recordersOf hmade
    (by rw [run_concat]; exact hset')).histogram
  rw [hget'] at hafter
  cases hafter
  rw [hlog, hbuckets] at hholds
  obtain ⟨new, b, hnew, hm⟩ := exists_new_of_run hset
  have hlast : m.buckets.getLast? = some (.infinity false) := by
    rw [hm]
    exact (MetricSet.buckets_play new _).symm ▸ hnew.infinite
  exact ⟨duration, x, _, m, m', before, _, rfl, hseconds, rfl, hlog, hset, hset', hget, hget',
    Histogram.tookIn_observe hlast x before, hholds, hbefore.count_concat hholds,
    hholds.getLast?_cumulative hlast⟩

/-- A duration that is infinite and negative is counted like any other. -/
theorem run_duration_counted_infinite :
    ∃ acts, ∃ r ∈ initial.recordersOf acts, ∃ arguments m m' before after,
      ((initial.run acts).call (.recorder r) Method.runDuration.name arguments).2 = .ok () ∧
      (initial.run acts).set? r.set = some m ∧
      ((initial.run acts).call (.recorder r) Method.runDuration.name arguments).1.set? r.set =
        some m' ∧
      m.runDuration.get? r.command = some before ∧ m'.runDuration.get? r.command = some after ∧
      after.count = before.count + 1 := by
  let acts : List Act := [.construct .default none none, .newRecorder .direct ⟨0⟩ (.text "ping")]
  have hrun : (⟨"ping", ⟨0⟩⟩ : Recorder) ∈ initial.recordersOf acts ∧
      SetOperation.observations (logOf ⟨0⟩ initial acts) "ping" = [] ∧
      ((initial.run acts).call (.recorder ⟨"ping", ⟨0⟩⟩) Method.runDuration.name
        [.number (.infinity true)]).2.toOption = some () := by decide +kernel
  obtain ⟨hr, hobserved, haccepted⟩ := hrun
  obtain ⟨duration, x, xs, m, m', before, after, heq, hseconds, hxs, -, hset, hset', hget, hget',
    -, -, hcount, -⟩ := run_duration_counted hr (toOption_eq_some_iff.1 haccepted)
  have hlen : xs.length < twoPow 53 := by
    rw [← hxs, hobserved]
    exact twoPow_pos 53
  have hnumber : ∀ y, Duration.seconds (.number (.infinity true)) = .ok y → y.isNaN = false :=
    fun y hy => by
      cases hy
      rfl
  rw [← List.singleton_inj.1 heq] at hseconds
  exact ⟨acts, _, hr, [.number (.infinity true)], m, m', before, after,
    toOption_eq_some_iff.1 haccepted, hset, hset', hget, hget', hcount (hnumber x hseconds) hlen⟩

/-- **What is no number is accepted and not counted.** -/
theorem run_duration_not_always_counted :
    ¬ ∀ acts, ∀ r ∈ initial.recordersOf acts, ∀ arguments m m' before after,
      ((initial.run acts).call (.recorder r) Method.runDuration.name arguments).2 = .ok () →
      (initial.run acts).set? r.set = some m →
      ((initial.run acts).call (.recorder r) Method.runDuration.name arguments).1.set? r.set =
        some m' →
      m.runDuration.get? r.command = some before → m'.runDuration.get? r.command = some after →
      after.count = before.count + 1 := by
  intro hcounted
  let acts : List Act := [.construct .default none none, .newRecorder .direct ⟨0⟩ (.text "ping")]
  let told := (initial.run acts).call (.recorder ⟨"ping", ⟨0⟩⟩) Method.runDuration.name
    [.number .nan]
  have hrun : (⟨"ping", ⟨0⟩⟩ : Recorder) ∈ initial.recordersOf acts ∧
      told.2.toOption = some () ∧
      ((((initial.run acts).set? ⟨0⟩).bind fun m => m.runDuration.get? "ping").map
        Histogram.count) = some 0 ∧
      (((told.1.set? ⟨0⟩).bind fun m => m.runDuration.get? "ping").map
        Histogram.count) = some 0 := by decide +kernel
  obtain ⟨hr, haccepted, hzero, hzero'⟩ := hrun
  have hcount : ∀ {h : Host}, (((h.set? ⟨0⟩).bind fun m => m.runDuration.get? "ping").map
      Histogram.count) = some 0 → ∃ m runs, h.set? ⟨0⟩ = some m ∧
        m.runDuration.get? "ping" = some runs ∧ runs.count = 0 := fun {h} hzero => by
    obtain ⟨runs, hruns, hcount⟩ := Option.map_eq_some_iff.1 hzero
    obtain ⟨m, hset, hget⟩ := Option.bind_eq_some_iff.1 hruns
    exact ⟨m, runs, hset, hget, hcount⟩
  obtain ⟨m, before, hset, hget, hbefore⟩ := hcount hzero
  obtain ⟨m', after, hset', hget', hafter⟩ := hcount hzero'
  have hone := hcounted acts _ hr [.number .nan] m m' before after
    (toOption_eq_some_iff.1 haccepted) hset hset' hget hget'
  rw [hbefore, hafter] at hone
  exact absurd hone (by decide +kernel)

end Host

end CommandMetrics
