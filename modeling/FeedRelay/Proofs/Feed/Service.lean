import FeedRelay.Feed.Roster
import FeedRelay.Proofs.Feed.FollowerSteps
import FeedRelay.Proofs.Machine

/-!
# A service and its tasks

A service runs its calls one after another, but a call takes several steps: it looks at the entry
of a key, takes the entry away, waits until its task is over, and connects. Between these steps
the tasks go on in any order. Each task is the follower of a topic; tasks are numbered in the
order in which they were started, and none is forgotten.

The entries of a service are its roster (`Service.roster`). A subscription that is not interrupted
does to the roster what `Roster.subscribe` does (`Service.run_subscribeTopic`).
-/

namespace FeedRelay.Feed

/-- A follower that was started, whether it may see that it has to stop, and the connections that
it gave up. -/
structure Task where
  follower : Follower
  dismissed : Bool
  spent : List Subscription

/-- What a service is doing: nothing, waiting for a task in whose place it will follow a topic,
connecting to a topic, waiting for a task that it drops, or waiting for one of the tasks that it
tears down. -/
inductive Call where
  | idle
  | replacing (topic : Topic) (awaited : Nat)
  | connecting (topic : Topic)
  | dropping (awaited : Nat)
  | clearing (awaited : Nat) (left : List Nat)

/-- What a call comes to. -/
inductive Outcome where
  | subscribed (result : Except Failure State)
  | unsubscribed (found : Bool)
  | cleared

/-- What a service reports: a task hands an event to the handler, or a call returns. -/
inductive Report where
  | told (number : Nat) (topic : Topic) (event : Event)
  | returned (outcome : Outcome)

/-- A service: its roster as numbers of tasks in the order of their keys, all tasks that it ever
started, and its present call. -/
structure Service where
  base : Url
  policy : ReconnectPolicy
  tasks : List Task
  entries : List Nat
  call : Call

namespace Task

/-- All connections that a task has made. -/
def connections (t : Task) : List Subscription :=
  t.spent ++ t.follower.connection.toList

/-- Whether something can happen to a task: it sees that it has to stop only when it has to. -/
def hears (t : Task) : Occurrence → Bool
  | .stop => t.dismissed
  | _ => true

/-- Go on with a follower, which may have given up the connection. -/
def goOn (t : Task) (g : Follower) : Task :=
  { t with
    follower := g
    spent := if g.connection.isNone then t.connections else t.spent }

end Task

namespace Call

/-- Whether a service is free for a call. -/
def isIdle : Call → Bool
  | .idle => true
  | _ => false

/-- The tasks that a call still waits for. -/
def awaited : Call → List Nat
  | .replacing _ n | .dropping n => [n]
  | .clearing n rest => n :: rest
  | _ => []

/-- The topic that a call will follow. -/
def topic? : Call → Option Topic
  | .replacing topic _ | .connecting topic => some topic
  | _ => none

/-- Whether a call tears all tasks down. -/
def isClearing : Call → Bool
  | .clearing _ _ => true
  | _ => false

theorem eq_idle {call : Call} (h : call.isIdle = true) : call = .idle := by
  cases call with
  | idle => rfl
  | _ => cases h

theorem awaited_of_isIdle {call : Call} (h : call.isIdle = true) : call.awaited = [] := by
  cases call with
  | idle => rfl
  | _ => cases h

theorem isClearing_of_awaited {call : Call} (h : call.awaited = []) : call.isClearing = false := by
  cases call with
  | clearing => cases h
  | _ => rfl

theorem topic?_of_isIdle {call : Call} (h : call.isIdle = true) : call.topic? = none := by
  rw [eq_idle h]
  rfl

theorem topic?_of_isClearing {call : Call} (h : call.isClearing = true) : call.topic? = none := by
  cases call with
  | clearing => rfl
  | _ => cases h

end Call

namespace Service

/-- What may happen to a service: it is called, the task that it waits for is over, an attempt to
connect comes out, or something happens to a task. -/
inductive Move where
  | subscribe (name : String) (instanceId : Option String)
  | subscribeTopic (topic : Topic)
  | unsubscribe (key : String)
  | shutdown (order : List Nat)
  | resume
  | connected (network : Connect)
  | occur (number : Nat) (occurrence : Occurrence)

/-- The topic that a call asks for. -/
def Move.topic? : Move → Option Topic
  | .subscribe name instanceId => (Topic.ofParts name instanceId).toOption
  | .subscribeTopic topic => some topic
  | _ => none

/-- A service without tasks. -/
def start (base : Url) (policy : ReconnectPolicy) : Service :=
  { base, policy, tasks := [], entries := [], call := .idle }

/-- The followers of all tasks. -/
def followers (s : Service) : List Follower :=
  s.tasks.map Task.follower

/-- The follower of a task. -/
def follower? (s : Service) (n : Nat) : Option Follower :=
  s.followers[n]?

/-- The key of a task. -/
def keyOf (s : Service) (n : Nat) : String :=
  (s.follower? n).elim "" Follower.key

/-- Whether a task is over. -/
def isOver (s : Service) (n : Nat) : Bool :=
  (s.follower? n).any Follower.isOver

/-- The roster of a service. -/
def roster (s : Service) : Roster :=
  { base := s.base, policy := s.policy, followers := s.entries.filterMap s.follower? }

/-- The entry of a key. -/
def entryOf (s : Service) (key : String) : Option Nat :=
  s.entries.find? (s.keyOf · = key)

/-- Put a task in its place among others, or in place of the one with its key. -/
def place (key : Nat → String) (n : Nat) : List Nat → List Nat
  | [] => [n]
  | m :: rest =>
    if key n = key m then n :: rest
    else if key n < key m then n :: m :: rest
    else m :: place key n rest

/-- Take the entry of a key away. -/
def withdraw (s : Service) (key : String) : Service :=
  { s with entries := s.entries.filter (s.keyOf · ≠ key) }

/-- Let a task see that it has to stop. -/
def dismiss (s : Service) (n : Nat) : Service :=
  { s with tasks := s.tasks.modify n fun t => { t with dismissed := true } }

/-- Take the entry of a key away and let its task see that it has to stop; a call waits for it. -/
def takeDown (s : Service) (key : String) (n : Nat) (call : Call) : Service :=
  { (s.withdraw key).dismiss n with call }

/-- Start the task of a topic, from a connection to an address or without one. -/
def follow (s : Service) (topic : Topic) (url : Option Url) : Service × List Report :=
  let (f, actions) := Follower.start topic s.policy url
  let n := s.tasks.length
  let t : Service :=
    { s with tasks := s.tasks ++ [{ follower := f, dismissed := false, spent := [] }] }
  ({ t with entries := place t.keyOf n t.entries, call := .idle },
    (toldOf actions).map (fun (topic, event) => .told n topic event) ++
      [.returned (.subscribed (.ok f.state))])

/-- Begin to subscribe to a topic: refuse if its key is live, and else drop a task of its key. -/
def ask (s : Service) (topic : Topic) : Service × List Report :=
  let key := topic.displayKey
  if s.roster.isLive key then
    (s, [.returned (.subscribed (.error (.alreadySubscribed key)))])
  else
    match s.entryOf key with
    | some n => (s.takeDown key n (.replacing topic n), [])
    | none => ({ s with call := .connecting topic }, [])

/-- Go on with a subscription when the attempt to connect comes out. -/
def connected (s : Service) (topic : Topic) (network : Connect) : Service × List Report :=
  match (connect network topic s.base).1 with
  | .ok url => s.follow topic (some url)
  | .error failure =>
    if failure.isOfConnection && s.policy.enabled then s.follow topic none
    else ({ s with call := .idle }, [.returned (.subscribed (.error failure))])

/-- Begin to drop the task of a key. -/
def leave (s : Service) (key : String) : Service × List Report :=
  match s.entryOf key with
  | some n => (s.takeDown key n (.dropping n), [])
  | none => (s, [.returned (.unsubscribed false)])

/-- Tear down tasks, of which the first is dismissed now. -/
def clear (s : Service) : List Nat → Service × List Report
  | [] => ({ s with call := .idle }, [.returned .cleared])
  | n :: rest => ({ s.dismiss n with call := .clearing n rest }, [])

/-- Go on with a call that waits for a task, once the task is over. -/
def resume (s : Service) : Option (Service × List Report) :=
  match s.call with
  | .replacing topic n =>
    if s.isOver n then some ({ s with call := .connecting topic }, []) else none
  | .dropping n =>
    if s.isOver n then some ({ s with call := .idle }, [.returned (.unsubscribed true)]) else none
  | .clearing n rest => if s.isOver n then some (s.clear rest) else none
  | _ => none

/-- Change a task. -/
def put (s : Service) (n : Nat) (task : Task) : Service :=
  { s with tasks := s.tasks.set n task }

/-- Let something happen to a task. -/
def occur (s : Service) (n : Nat) (occurrence : Occurrence) : Option (Service × List Report) :=
  s.tasks[n]?.bind fun t =>
    if t.hears occurrence then
      (t.follower.step occurrence).map fun (g, actions) =>
        (s.put n (t.goOn g),
          (toldOf actions).map fun (topic, event) => .told n topic event)
    else none

/-- The machine of services. -/
def machine : Machine Service Move Report
  | s, .subscribe name instanceId =>
    if s.call.isIdle then
      match Topic.ofParts name instanceId with
      | .ok topic => some (s.ask topic)
      | .error fault => some (s, [.returned (.subscribed (.error (.invalidTopic fault)))])
    else none
  | s, .subscribeTopic topic => if s.call.isIdle then some (s.ask topic) else none
  | s, .unsubscribe key => if s.call.isIdle then some (s.leave key) else none
  | s, .shutdown order =>
    if s.call.isIdle ∧ order.Perm s.entries then some ({ s with entries := [] }.clear order)
    else none
  | s, .resume => s.resume
  | s, .connected network =>
    match s.call with
    | .connecting topic => some (s.connected topic network)
    | _ => none
  | s, .occur n occurrence => s.occur n occurrence

variable {s t : Service}

@[simp] theorem followers_dismiss (s : Service) (n : Nat) :
    (s.dismiss n).followers = s.followers := by
  refine List.ext_getElem? fun m => ?_
  rw [followers, followers, List.getElem?_map, List.getElem?_map, dismiss, List.getElem?_modify]
  cases s.tasks[m]? with
  | none => rfl
  | some task => by_cases hm : n = m <;> simp [hm]

@[simp] theorem followers_clear (s : Service) (order : List Nat) :
    (s.clear order).1.followers = s.followers := by
  cases order with
  | nil => rfl
  | cons n rest => exact s.followers_dismiss n

theorem followers_follow (s : Service) (topic : Topic) (url : Option Url) :
    (s.follow topic url).1.followers =
      s.followers ++ [(Follower.start topic s.policy url).1] :=
  List.map_append

/-- A task that starts tells the handler nothing; the call returns its state. -/
theorem reports_follow (s : Service) (topic : Topic) (url : Option Url) :
    (s.follow topic url).2 =
      [.returned (.subscribed (.ok (Follower.start topic s.policy url).1.state))] := by
  obtain ⟨-, -, -, htold⟩ := Follower.start_spec topic s.policy url
  change (toldOf (Follower.start topic s.policy url).2).map _ ++ _ = _
  rw [htold]
  rfl

@[simp] theorem length_followers (s : Service) : s.followers.length = s.tasks.length :=
  List.length_map _

/-- The followers after a task has started are those before and its own. -/
theorem follower?_follow {topic : Topic} {url : Option Url} {n : Nat} {f : Follower} :
    (s.follow topic url).1.follower? n = some f ↔
      s.follower? n = some f ∨
        n = s.tasks.length ∧ (Follower.start topic s.policy url).1 = f := by
  rw [follower?, followers_follow, getElem?_concat_eq_some, length_followers]
  rfl

theorem keyOf_eq (h : t.followers = s.followers) : t.keyOf = s.keyOf := by
  funext n
  rw [keyOf, keyOf, follower?, follower?, h]

theorem exists_follower? {n : Nat} (h : n < s.followers.length) : ∃ f, s.follower? n = some f :=
  ⟨s.followers[n], List.getElem?_eq_getElem h⟩

theorem keyOf_of_follower? {n : Nat} {f : Follower} (h : s.follower? n = some f) :
    s.keyOf n = f.key := by
  rw [keyOf, h]
  rfl

/-- The followers after a task has changed are those before, but for its own. -/
theorem follower?_put {m n : Nat} {task old : Task} (h : s.tasks[n]? = some old) :
    (s.put n task).follower? m = if n = m then some task.follower else s.follower? m := by
  have hlt : n < s.followers.length := by
    rw [length_followers]
    exact (List.getElem?_eq_some_iff.mp h).1
  rw [follower?, followers, put, List.map_set, List.getElem?_set]
  exact if_congr Iff.rfl (if_pos hlt) rfl

/-! ### The entries of a service -/

/-- The tasks that can be waited for: those of the entries and those that the present call waits
for. -/
def held (s : Service) : List Nat :=
  s.entries ++ s.call.awaited

theorem mem_place {key : Nat → String} {m n : Nat} {list : List Nat}
    (h : m ∈ place key n list) : m = n ∨ m ∈ list := by
  induction list with
  | nil => exact Or.inl (List.mem_singleton.mp h)
  | cons first rest ih =>
    unfold place at h
    split at h
    · rcases List.mem_cons.mp h with rfl | h
      · exact Or.inl rfl
      · exact Or.inr (List.mem_cons_of_mem _ h)
    · split at h
      · exact List.mem_cons.mp h
      · rcases List.mem_cons.mp h with rfl | h
        · exact Or.inr List.mem_cons_self
        · exact (ih h).imp_right (List.mem_cons_of_mem _)

/-- A task is put among others, and takes away no task of another key. -/
theorem mem_place_of {key : Nat → String} {m n : Nat} {list : List Nat}
    (h : m = n ∨ m ∈ list ∧ key n ≠ key m) : m ∈ place key n list := by
  induction list with
  | nil => simpa [place] using h
  | cons first rest ih =>
    unfold place
    split
    · rename_i hfirst
      rcases h with rfl | ⟨hmem, hne⟩
      · exact List.mem_cons_self
      · rcases List.mem_cons.mp hmem with rfl | hmem
        · exact absurd hfirst hne
        · exact List.mem_cons_of_mem _ hmem
    · split
      · rcases h with rfl | ⟨hmem, -⟩
        · exact List.mem_cons_self
        · exact List.mem_cons_of_mem _ hmem
      · rcases h with rfl | ⟨hmem, hne⟩
        · exact List.mem_cons_of_mem _ (ih (Or.inl rfl))
        · rcases List.mem_cons.mp hmem with rfl | hmem
          · exact List.mem_cons_self
          · exact List.mem_cons_of_mem _ (ih (Or.inr ⟨hmem, hne⟩))

theorem entryOf_eq_some {key : String} {n : Nat} (h : s.entryOf key = some n) :
    n ∈ s.entries ∧ s.keyOf n = key :=
  ⟨List.mem_of_find?_eq_some h, by simpa using List.find?_some h⟩

theorem keyOf_ne_of_entryOf {key : String} (h : s.entryOf key = none) :
    ∀ n ∈ s.entries, s.keyOf n ≠ key := by
  simpa [entryOf] using h

@[simp] theorem followers_takeDown (s : Service) (key : String) (n : Nat) (call : Call) :
    (s.takeDown key n call).followers = s.followers :=
  (s.withdraw key).followers_dismiss n

theorem mem_entries_takeDown {key : String} {m n : Nat} {call : Call} :
    m ∈ (s.takeDown key n call).entries ↔ m ∈ s.entries ∧ s.keyOf m ≠ key := by
  simp [takeDown, dismiss, withdraw]

/-! ### What a step of a service can do -/

/-- What a move does: a call is refused, begins or is answered at once; a call that waits goes on
when the task is over; an attempt to connect comes to a task or to a failure; or a task makes a
step. -/
inductive Change (s : Service) : Move → Service → List Report → Prop
  | refuse {move : Move} {topic : Topic} (hmove : move.topic? = some topic)
      (hlive : s.roster.isLive topic.displayKey = true) :
      Change s move s [.returned (.subscribed (.error (.alreadySubscribed topic.displayKey)))]
  | replace {move : Move} {topic : Topic} {n : Nat} (hmove : move.topic? = some topic)
      (hidle : s.call.awaited = []) (hlive : s.roster.isLive topic.displayKey = false)
      (hn : s.entryOf topic.displayKey = some n) :
      Change s move (s.takeDown topic.displayKey n (.replacing topic n)) []
  | reach {move : Move} {topic : Topic} (hmove : move.topic? = some topic)
      (hidle : s.call.awaited = []) (hlive : s.roster.isLive topic.displayKey = false)
      (hn : s.entryOf topic.displayKey = none) :
      Change s move { s with call := .connecting topic } []
  | answer {move : Move} {outcome : Outcome} (hmove : move.topic? = none)
      (houtcome : ∀ key, outcome ≠ .subscribed (.error (.alreadySubscribed key))) :
      Change s move s [.returned outcome]
  | leave {key : String} {n : Nat} (hidle : s.call.awaited = []) (hn : s.entryOf key = some n) :
      Change s (.unsubscribe key) (s.takeDown key n (.dropping n)) []
  | shutdown {order : List Nat} (hidle : s.call.awaited = []) (horder : order.Perm s.entries) :
      Change s (.shutdown order) (({ s with entries := [] } : Service).clear order).1
        (({ s with entries := [] } : Service).clear order).2
  | proceed {topic : Topic} {n : Nat} (hcall : s.call = .replacing topic n)
      (hover : s.isOver n = true) : Change s .resume { s with call := .connecting topic } []
  | dropped {n : Nat} (hcall : s.call = .dropping n) (hover : s.isOver n = true) :
      Change s .resume { s with call := .idle } [.returned (.unsubscribed true)]
  | clear {n : Nat} {rest : List Nat} (hcall : s.call = .clearing n rest)
      (hover : s.isOver n = true) : Change s .resume (s.clear rest).1 (s.clear rest).2
  | follow {network : Connect} {topic : Topic} (url : Option Url)
      (hcall : s.call = .connecting topic) :
      Change s (.connected network) (s.follow topic url).1 (s.follow topic url).2
  | fail {network : Connect} {topic : Topic} {failure : Failure}
      (hcall : s.call = .connecting topic)
      (hfailure : ∀ key, failure ≠ .alreadySubscribed key) :
      Change s (.connected network) { s with call := .idle }
        [.returned (.subscribed (.error failure))]
  | occur {n : Nat} {occurrence : Occurrence} {task : Task} {g : Follower} {actions : List Action}
      (htask : s.tasks[n]? = some task) (hhears : task.hears occurrence = true)
      (hstep : task.follower.step occurrence = some (g, actions)) :
      Change s (.occur n occurrence) (s.put n (task.goOn g))
        ((toldOf actions).map fun (topic, event) => .told n topic event)

variable {move : Move} {reports : List Report}

private theorem change_ask {topic : Topic} (hmove : move.topic? = some topic)
    (hidle : s.call.isIdle = true) (h : s.ask topic = (t, reports)) : Change s move t reports := by
  have hawaited := Call.awaited_of_isIdle hidle
  by_cases hlive : s.roster.isLive topic.displayKey = true
  · have hask : s.ask topic = _ := if_pos hlive
    rw [hask, Prod.mk.injEq] at h
    obtain ⟨rfl, rfl⟩ := h
    exact .refuse hmove hlive
  · have hask : s.ask topic = _ := if_neg hlive
    rw [hask] at h
    have hlive' : s.roster.isLive topic.displayKey = false := eq_false_of_ne_true hlive
    split at h
    · obtain ⟨rfl, rfl⟩ := Prod.mk.inj h
      exact .replace hmove hawaited hlive' ‹_›
    · obtain ⟨rfl, rfl⟩ := Prod.mk.inj h
      exact .reach hmove hawaited hlive' ‹_›

private theorem change_leave {key : String} (hidle : s.call.isIdle = true)
    (h : s.leave key = (t, reports)) : Change s (.unsubscribe key) t reports := by
  unfold leave at h
  split at h
  · obtain ⟨rfl, rfl⟩ := Prod.mk.inj h
    exact .leave (Call.awaited_of_isIdle hidle) ‹_›
  · obtain ⟨rfl, rfl⟩ := Prod.mk.inj h
    exact .answer rfl (by simp)

private theorem change_resume (h : s.resume = some (t, reports)) : Change s .resume t reports := by
  unfold resume at h
  split at h
  · rename_i hcall
    obtain ⟨hover, h⟩ := Option.ite_none_right_eq_some.mp h
    obtain ⟨rfl, rfl⟩ := Prod.mk.inj (Option.some.inj h)
    exact .proceed hcall hover
  · rename_i hcall
    obtain ⟨hover, h⟩ := Option.ite_none_right_eq_some.mp h
    obtain ⟨rfl, rfl⟩ := Prod.mk.inj (Option.some.inj h)
    exact .dropped hcall hover
  · rename_i n rest hcall
    obtain ⟨hover, h⟩ := Option.ite_none_right_eq_some.mp h
    have hclear := Change.clear hcall hover
    rw [Option.some.inj h] at hclear
    exact hclear
  · cases h

/-- An attempt to connect fails because of the topic or because of the connection. -/
private theorem connect_ne_alreadySubscribed {network : Connect} {topic : Topic} {base : Url}
    {failure : Failure} (h : (connect network topic base).1 = .error failure) (key : String) :
    failure ≠ .alreadySubscribed key := by
  rintro rfl
  unfold connect at h
  split at h
  · cases h
  · dsimp only at h
    split at h <;> cases h

private theorem change_connected {topic : Topic} {network : Connect}
    (hcall : s.call = .connecting topic) (h : s.connected topic network = (t, reports)) :
    Change s (.connected network) t reports := by
  have hfollow (url : Option Url) (h : s.follow topic url = (t, reports)) :
      Change s (.connected network) t reports := by
    have hchange : Change s (.connected network) _ _ := .follow url hcall
    rw [h] at hchange
    exact hchange
  unfold connected at h
  split at h
  · exact hfollow _ h
  · rename_i failure hfailure
    split at h
    · exact hfollow _ h
    · obtain ⟨rfl, rfl⟩ := Prod.mk.inj h
      exact .fail hcall (connect_ne_alreadySubscribed hfailure)

private theorem change_occur {n : Nat} {occurrence : Occurrence}
    (h : s.occur n occurrence = some (t, reports)) : Change s (.occur n occurrence) t reports := by
  obtain ⟨task, htask, h⟩ := Option.bind_eq_some_iff.mp h
  obtain ⟨hhears, h⟩ := Option.ite_none_right_eq_some.mp h
  obtain ⟨⟨g, actions⟩, hstep, h⟩ := Option.map_eq_some_iff.mp h
  obtain ⟨rfl, rfl⟩ := Prod.mk.inj h
  exact .occur htask hhears hstep

/-- All that a move can do. -/
theorem change_of_machine (h : machine s move = some (t, reports)) : Change s move t reports := by
  cases move with
  | subscribe name instanceId =>
    obtain ⟨hidle, h⟩ := Option.ite_none_right_eq_some.mp h
    split at h
    · rename_i topic htopic
      exact change_ask (by rw [Move.topic?, htopic]; rfl) hidle (Option.some.inj h)
    · rename_i fault htopic
      obtain ⟨rfl, rfl⟩ := Prod.mk.inj (Option.some.inj h)
      exact .answer (by rw [Move.topic?, htopic]; rfl) (by simp)
  | subscribeTopic topic =>
    obtain ⟨hidle, h⟩ := Option.ite_none_right_eq_some.mp h
    exact change_ask rfl hidle (Option.some.inj h)
  | unsubscribe key =>
    obtain ⟨hidle, h⟩ := Option.ite_none_right_eq_some.mp h
    exact change_leave hidle (Option.some.inj h)
  | shutdown order =>
    obtain ⟨⟨hidle, horder⟩, h⟩ := Option.ite_none_right_eq_some.mp h
    have hclear := Change.shutdown (Call.awaited_of_isIdle hidle) horder
    rw [Option.some.inj h] at hclear
    exact hclear
  | resume => exact change_resume h
  | connected network =>
    rw [machine] at h
    split at h
    · exact change_connected ‹_› (Option.some.inj h)
    · cases h
  | occur n occurrence => exact change_occur h

end Service

end FeedRelay.Feed
