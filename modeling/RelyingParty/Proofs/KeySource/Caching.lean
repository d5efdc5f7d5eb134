import RelyingParty.KeySource
import RelyingParty.Proofs.Checked

set_option autoImplicit false

namespace RelyingParty

inductive Question (A : Type)
  | signature (id : Option String) (algorithm : A)
  | decryption (id : Option String) (algorithm : KeyManagement) (method : ContentEncryption)

namespace Question

variable {A : Type}

def id : Question A -> Option String
  | .signature id _ => id
  | .decryption id _ _ => id

def put (source : KeySource A) : Question A -> StateM Session Candidates
  | .signature id algorithm => source.signatureKeys id algorithm
  | .decryption id algorithm method => source.decryptionKeys id algorithm method

def keys [SigningAlgorithm A] (set : KeySet) : Question A -> List Key
  | .signature id algorithm => set.signatureKeys id algorithm
  | .decryption id algorithm _ => set.decryptionKeys id algorithm

theorem put_keySet [SigningAlgorithm A] (question : Question A) (set : KeySet)
    (session : Session) :
    (question.put set.source).run session = (.ok (question.keys set), session) := by
  cases question <;> rfl

theorem put_remote [SigningAlgorithm A] (question : Question A) (remote : RemoteKeySet)
    (session : Session) :
    (question.put remote.source).run session =
      let found := (remote.keySet question.id).run session
      ((found.1.map question.keys).mapError .ofFetch, found.2) := by
  have answered (keys : KeySet -> List Key) : (remote.answer question.id keys).run session =
      let found := (remote.keySet question.id).run session
      ((found.1.map keys).mapError .ofFetch, found.2) := by
    unfold RemoteKeySet.answer
    rw [StateT.run_bind]
    rcases (remote.keySet question.id).run session with ⟨_ | _, _⟩ <;> rfl
  cases question <;> exact answered _

end Question

namespace KeySet

def received : Except String Http.Response -> Except FetchFault KeySet
  | .error message => .error (.client message)
  | .ok response => ofResponse response

theorem fetch_unsent (url : UrlText) (fault : Http.Uri.Fault)
    (unfit : Http.Uri.ofText url.text = .error fault) (session : Session) :
    (fetch url).run session = (.error (.request fault), session) := by
  unfold fetch
  rw [unfit]
  rfl

theorem fetch_sent (url : UrlText) (uri : Http.Uri) (fit : Http.Uri.ofText url.text = .ok uri)
    (session : Session) :
    (fetch url).run session =
      (received (session.client session.requests.length),
        { session with requests := session.requests ++ [.get uri] }) := by
  have sent : (Session.send (.get uri)).run session =
      (session.client session.requests.length,
        { session with requests := session.requests ++ [.get uri] }) := rfl
  unfold fetch
  rw [fit]
  dsimp only
  rw [StateT.run_bind, sent]
  cases session.client session.requests.length <;> rfl

theorem fetch_frame (url : UrlText) (session : Session) :
    ((fetch url).run session).2 =
      { session with requests := ((fetch url).run session).2.requests } := by
  cases fit : Http.Uri.ofText url.text with
  | error fault => rw [fetch_unsent url fault fit session]
  | ok uri => rw [fetch_sent url uri fit session]

/-- The last key set among a number of answers of a client, from one of them on. -/
def lastReceived (client : Http.Client) (first : Nat) : Nat -> Option KeySet
  | 0 => none
  | count + 1 =>
    match received (client (first + count)) with
    | .ok set => some set
    | .error _ => lastReceived client first count

theorem containsId_eq_false (set : KeySet) (name : String) :
    set.containsId name = false ↔ ∀ key ∈ set.keys, key.id ≠ some name := by
  simp [containsId]

end KeySet

/-- The last key set that was fetched between two points of a session. -/
def Session.lastFetched (start session : Session) : Option KeySet :=
  KeySet.lastReceived start.client start.requests.length
    (session.requests.length - start.requests.length)

def Session.later (session : Session) (seconds : Nat) : Session :=
  { session with clock := session.clock + seconds }

structure Exchange (A : Type) where
  question : Question A
  before : Session
  answer : Candidates
  after : Session

namespace RemoteKeySet

section

variable (remote : RemoteKeySet)

/-- A token with some key identifier makes a fetch necessary, by the last key set fetched. -/
inductive NeedsFetch (id : Option String) : Option KeySet -> Prop
  | first : NeedsFetch id none
  | expired {set : KeySet} (unkept : remote.lifespan = 0) : NeedsFetch id (some set)
  | unknown {set : KeySet} {name : String} (unlimited : remote.refreshInterval = 0)
      (named : id = some name) (missing : ∀ key ∈ set.keys, key.id ≠ some name) :
      NeedsFetch id (some set)

/-- Over a time like this, a response is used either never again or as long as one likes. -/
structure Settled (duration : Nat) : Prop where
  lifespan : remote.lifespan = 0 ∨ duration < remote.lifespan
  refreshInterval : remote.refreshInterval = 0 ∨ duration < remote.refreshInterval

theorem isOutdated_needsFetch (kept : KeptKeySet) (now duration : Nat) (id : Option String)
    (settled : remote.Settled duration) (recent : now ≤ kept.since + duration) :
    remote.isOutdated kept now id = true ↔ remote.NeedsFetch id (some kept.keySet) := by
  -- No more than the duration has passed since, so an interval is over just if it is zero.
  have lifespan : remote.lifespan ≤ now - kept.since ↔ remote.lifespan = 0 := by
    have settled := settled.lifespan
    omega
  have interval : remote.refreshInterval ≤ now - kept.since ↔ remote.refreshInterval = 0 := by
    have settled := settled.refreshInterval
    omega
  simp only [isOutdated, lifespan, interval, Bool.or_eq_true, decide_eq_true_eq]
  constructor
  · rintro (unkept | missing)
    · exact .expired unkept
    · cases id with
      | none => cases missing
      | some name =>
        simp only [Option.any_some, Bool.and_eq_true, Bool.not_eq_true', decide_eq_true_eq,
          KeySet.containsId_eq_false] at missing
        exact .unknown missing.2 rfl missing.1
  · intro needs
    cases needs with
    | expired unkept => exact .inl unkept
    | unknown unlimited named missing =>
      subst named
      simp only [Option.any_some, Bool.and_eq_true, Bool.not_eq_true', decide_eq_true_eq,
        KeySet.containsId_eq_false]
      exact .inr ⟨missing, unlimited⟩

def stored (outcome : Except FetchFault KeySet) (session : Session) : Session :=
  match outcome with
  | .ok set => ((Session.keep remote.slot set).run session).2
  | .error _ => session

@[simp] theorem stored_requests (outcome : Except FetchFault KeySet) (session : Session) :
    (remote.stored outcome session).requests = session.requests := by
  cases outcome <;> rfl

@[simp] theorem stored_clock (outcome : Except FetchFault KeySet) (session : Session) :
    (remote.stored outcome session).clock = session.clock := by
  cases outcome <;> rfl

theorem refresh_run (session : Session) :
    remote.refresh.run session =
      let fetched := (KeySet.fetch remote.url).run session
      (fetched.1, remote.stored fetched.1 fetched.2) := by
  unfold refresh
  rw [StateT.run_bind]
  rcases (KeySet.fetch remote.url).run session with ⟨_ | _, _⟩ <;> rfl

theorem keySet_run (id : Option String) (session : Session) :
    (remote.keySet id).run session =
      match session.kept remote.slot with
      | none => remote.refresh.run session
      | some kept =>
        if remote.isOutdated kept session.clock id then remote.refresh.run session
        else (.ok kept.keySet, session) := by
  have begun : (remote.keySet id).run session = (match session.kept remote.slot with
      | none => remote.refresh
      | some kept =>
        if remote.isOutdated kept session.clock id then remote.refresh
        else return .ok kept.keySet).run session := rfl
  rw [begun]
  cases session.kept remote.slot with
  | none => rfl
  | some kept =>
    dsimp only
    split <;> rfl

theorem lastFetched_sent (start before after : Session) (request : Http.Request)
    (begun : start.requests.length ≤ before.requests.length)
    (client : before.client = start.client)
    (sent : after.requests = before.requests ++ [request]) :
    start.lastFetched after =
      match KeySet.received (before.client before.requests.length) with
      | .ok set => some set
      | .error _ => start.lastFetched before := by
  have count : (before.requests ++ [request]).length - start.requests.length =
      before.requests.length - start.requests.length + 1 := by
    rw [List.length_append, List.length_singleton]
    omega
  -- The request is answered at the place that it takes among all requests.
  have place : start.requests.length + (before.requests.length - start.requests.length) =
      before.requests.length := by omega
  unfold Session.lastFetched
  rw [client, sent, count, KeySet.lastReceived, place]

structure Caches (start session : Session) : Prop where
  client : session.client = start.client
  requests : start.requests.length ≤ session.requests.length
  clock : start.clock ≤ session.clock
  kept : (session.kept remote.slot).map KeptKeySet.keySet = start.lastFetched session
  since : ∀ kept, session.kept remote.slot = some kept -> start.clock ≤ kept.since

theorem caches_start (start : Session) (fresh : start.kept remote.slot = none) :
    remote.Caches start start := by
  refine ⟨rfl, Nat.le_refl _, Nat.le_refl _, ?_, ?_⟩
  · rw [fresh, Session.lastFetched, Nat.sub_self]
    rfl
  · rw [fresh]
    exact nofun

theorem later_caches (start session : Session) (caches : remote.Caches start session)
    (seconds : Nat) : remote.Caches start (session.later seconds) :=
  ⟨caches.client, caches.requests, Nat.le_add_right_of_le caches.clock, caches.kept, caches.since⟩

theorem stored_caches (start before fetched : Session) (caches : remote.Caches start before)
    (outcome : Except FetchFault KeySet)
    (ran : (KeySet.fetch remote.url).run before = (outcome, fetched)) :
    remote.Caches start (remote.stored outcome fetched) ∧
      ∀ set, outcome = .ok set ->
        start.lastFetched (remote.stored outcome fetched) = some set := by
  cases fit : Http.Uri.ofText remote.url.text with
  | error fault =>
    rw [KeySet.fetch_unsent remote.url fault fit before] at ran
    cases ran
    exact ⟨caches, nofun⟩
  | ok uri =>
    rw [KeySet.fetch_sent remote.url uri fit before] at ran
    cases ran
    have grown : start.requests.length ≤ (before.requests ++ [Http.Request.get uri]).length := by
      rw [List.length_append]
      exact Nat.le_add_right_of_le caches.requests
    -- One request more was answered, and its answer counts only if it is a key set.
    have last (outcome : Except FetchFault KeySet) :=
      lastFetched_sent start before
        (remote.stored outcome { before with requests := before.requests ++ [.get uri] })
        (.get uri) caches.requests caches.client (remote.stored_requests _ _)
    cases answer : KeySet.received (before.client before.requests.length) with
    | error fault =>
      have same := last (.error fault)
      rw [answer] at same
      exact ⟨⟨caches.client, grown, caches.clock, caches.kept.trans same.symm, caches.since⟩, nofun⟩
    | ok set =>
      have newest := last (.ok set)
      rw [answer] at newest
      have slot : (remote.stored (.ok set)
          { before with requests := before.requests ++ [.get uri] }).kept remote.slot =
          some ⟨set, before.clock⟩ := if_pos rfl
      refine ⟨⟨caches.client, grown, caches.clock, ?_, ?_⟩, ?_⟩
      · rw [slot]
        exact newest.symm
      · intro kept found
        cases slot.symm.trans found
        exact caches.clock
      · rintro _ ⟨⟩
        exact newest

theorem keySet_caches (start before : Session) (duration : Nat) (id : Option String)
    (caches : remote.Caches start before) (settled : remote.Settled duration)
    (recent : before.clock ≤ start.clock + duration) :
    remote.NeedsFetch id (start.lastFetched before) ∧
        (remote.keySet id).run before = remote.refresh.run before ∨
      ¬ remote.NeedsFetch id (start.lastFetched before) ∧
        ∃ set, start.lastFetched before = some set ∧
          (remote.keySet id).run before = (.ok set, before) := by
  -- The slot holds the last key set fetched, so that both conditions are about the same set.
  rw [remote.keySet_run id before, ← caches.kept]
  cases slot : before.kept remote.slot with
  | none => exact .inl ⟨.first, rfl⟩
  | some kept =>
    have since := caches.since kept slot
    have outdated := remote.isOutdated_needsFetch kept before.clock duration id settled (by omega)
    dsimp only [Option.map_some]
    by_cases needs : remote.NeedsFetch id (some kept.keySet)
    · exact .inl ⟨needs, if_pos (outdated.mpr needs)⟩
    · exact .inr ⟨needs, kept.keySet, rfl, if_neg fun old => needs (outdated.mp old)⟩

end

section

variable {A : Type} [SigningAlgorithm A] (remote : RemoteKeySet)

def exchange (question : Question A) (before : Session) : Exchange A :=
  let ran := (question.put remote.source).run before
  ⟨question, before, ran.1, ran.2⟩

def exchanges : List (Nat × Question A) -> Session -> List (Exchange A)
  | [], _ => []
  | (wait, question) :: rest, session =>
    let first := remote.exchange question (session.later wait)
    first :: exchanges rest first.after

def Fetches (start : Session) (exchange : Exchange A) : Prop :=
  remote.NeedsFetch exchange.question.id (start.lastFetched exchange.before)

def attempt (exchange : Exchange A) : Except FetchFault KeySet × Session :=
  (KeySet.fetch remote.url).run exchange.before

structure Answered (start : Session) (exchange : Exchange A) : Prop where
  idle : ¬ remote.Fetches start exchange -> exchange.after = exchange.before
  fetched : remote.Fetches start exchange ->
    exchange.after = remote.stored (remote.attempt exchange).1 (remote.attempt exchange).2
  requested : ∀ uri, Http.Uri.ofText remote.url.text = .ok uri ->
    (remote.Fetches start exchange ↔
      exchange.after.requests = exchange.before.requests ++ [.get uri]) ∧
    (¬ remote.Fetches start exchange ↔ exchange.after.requests = exchange.before.requests)
  unsent : ∀ unfit, Http.Uri.ofText remote.url.text = .error unfit ->
    exchange.after.requests = exchange.before.requests
  fault : ∀ fault, exchange.answer = .error fault ↔
    remote.Fetches start exchange ∧
      ∃ cause, (remote.attempt exchange).1 = .error cause ∧ KeySourceFault.ofFetch cause = fault
  answered : ∀ keys, exchange.answer = .ok keys ->
    ∃ set, start.lastFetched exchange.after = some set ∧
      ((exchange.question.put set.source).run exchange.before).1 = .ok keys
  unchanged : ∀ fault, exchange.answer = .error fault ->
    exchange.after = { exchange.before with requests := exchange.after.requests }

theorem exchange_idle (start before : Session) (question : Question A) (set : KeySet)
    (unneeded : ¬ remote.NeedsFetch question.id (start.lastFetched before))
    (last : start.lastFetched before = some set)
    (found : (remote.keySet question.id).run before = (.ok set, before)) :
    (remote.exchange question before).after = before ∧
      remote.Answered start (remote.exchange question before) := by
  have exchanged : remote.exchange question before =
      ⟨question, before, .ok (question.keys set), before⟩ := by
    unfold exchange
    rw [question.put_remote remote before, found]
    rfl
  rw [exchanged]
  refine ⟨rfl, ?_⟩
  constructor
  case idle => exact fun _ => rfl
  case fetched => exact fun needs => absurd needs unneeded
  case requested =>
    intro uri _
    refine ⟨⟨fun needs => absurd needs unneeded, fun grown => ?_⟩, fun _ => rfl, fun _ => unneeded⟩
    simp at grown
  case unsent => exact fun _ _ => rfl
  case fault => exact fun _ => ⟨nofun, fun needs => absurd needs.1 unneeded⟩
  case answered =>
    rintro _ ⟨⟩
    exact ⟨set, last, by rw [question.put_keySet set before]⟩
  case unchanged => exact nofun

theorem exchange_fetched (start before : Session) (question : Question A)
    (caches : remote.Caches start before)
    (needed : remote.NeedsFetch question.id (start.lastFetched before))
    (found : (remote.keySet question.id).run before = remote.refresh.run before) :
    remote.Caches start (remote.exchange question before).after ∧
      (remote.exchange question before).after.clock = before.clock ∧
      remote.Answered start (remote.exchange question before) := by
  obtain ⟨outcome, fetched, ran⟩ :
      ∃ outcome fetched, (KeySet.fetch remote.url).run before = (outcome, fetched) := ⟨_, _, rfl⟩
  have exchanged : remote.exchange question before =
      ⟨question, before, (outcome.map question.keys).mapError .ofFetch,
        remote.stored outcome fetched⟩ := by
    unfold exchange
    rw [question.put_remote remote before, found, remote.refresh_run before, ran]
  -- The fetch itself changes the requests only; what it keeps is the set that is now the last one.
  obtain ⟨kept, newest⟩ := remote.stored_caches start before fetched caches outcome ran
  have frame : fetched = { before with requests := fetched.requests } := by
    have frame := KeySet.fetch_frame remote.url before
    rwa [ran] at frame
  have clock := (remote.stored_clock outcome fetched).trans (congrArg Session.clock frame)
  rw [exchanged]
  refine ⟨kept, clock, ?_⟩
  constructor
  case idle => exact fun unneeded => absurd needed unneeded
  case fetched =>
    intro _
    unfold attempt
    rw [ran]
  case requested =>
    intro uri fit
    rw [KeySet.fetch_sent remote.url uri fit before] at ran
    cases ran
    rw [stored_requests]
    refine ⟨⟨fun _ => rfl, fun _ => needed⟩, fun unneeded => absurd needed unneeded, fun same => ?_⟩
    simp at same
  case unsent =>
    intro unfit refused
    rw [KeySet.fetch_unsent remote.url unfit refused before] at ran
    cases ran
    rfl
  case fault =>
    intro fault
    unfold attempt
    rw [ran]
    cases outcome with
    | ok set => exact ⟨nofun, nofun⟩
    | error cause =>
      constructor
      · rintro ⟨⟩
        exact ⟨needed, cause, rfl, rfl⟩
      · rintro ⟨_, _, ⟨⟩, rfl⟩
        rfl
  case answered =>
    intro keys answer
    cases outcome with
    | error cause => cases answer
    | ok set =>
      cases answer
      exact ⟨set, newest set rfl, by rw [question.put_keySet set before]⟩
  case unchanged =>
    intro fault answer
    cases outcome with
    | error cause => exact frame
    | ok set => cases answer

theorem exchange_step (start before : Session) (duration : Nat) (question : Question A)
    (caches : remote.Caches start before) (settled : remote.Settled duration)
    (recent : before.clock ≤ start.clock + duration) :
    remote.Caches start (remote.exchange question before).after ∧
      (remote.exchange question before).after.clock = before.clock ∧
      remote.Answered start (remote.exchange question before) := by
  rcases remote.keySet_caches start before duration question.id caches settled recent with
    ⟨needed, found⟩ | ⟨unneeded, set, last, found⟩
  · exact remote.exchange_fetched start before question caches needed found
  · obtain ⟨same, answered⟩ := remote.exchange_idle start before question set unneeded last found
    rw [same]
    exact ⟨caches, rfl, answered⟩

def duration : List (Nat × Question A) -> Nat
  | [] => 0
  | (wait, _) :: rest => wait + duration rest

theorem exchanges_caches (start : Session) (total : Nat) (settled : remote.Settled total)
    (steps : List (Nat × Question A)) (session : Session) (caches : remote.Caches start session)
    (inTime : session.clock + duration steps ≤ start.clock + total) :
    ∀ exchange ∈ remote.exchanges steps session, remote.Answered start exchange := by
  -- Before each step the cache agrees with what was fetched, and the rest of the run is in time.
  induction steps generalizing session with
  | nil =>
    intro exchange found
    exact absurd found List.not_mem_nil
  | cons step rest ih =>
    obtain ⟨wait, question⟩ := step
    have spent : session.clock + (wait + duration rest) ≤ start.clock + total := inTime
    have waited : (session.later wait).clock = session.clock + wait := rfl
    have ready := remote.later_caches start session caches wait
    obtain ⟨kept, clock, answered⟩ := remote.exchange_step start (session.later wait) total question
      ready settled (by omega)
    intro exchange found
    rcases List.mem_cons.mp found with rfl | later
    · exact answered
    · exact ih _ kept (by omega) exchange later

theorem exchanges_answered (start : Session) (steps : List (Nat × Question A))
    (fresh : start.kept remote.slot = none) (settled : remote.Settled (duration steps)) :
    ∀ exchange ∈ remote.exchanges steps start, remote.Answered start exchange :=
  remote.exchanges_caches start (duration steps) settled steps start
    (remote.caches_start start fresh) (Nat.le_refl _)

end

namespace Sample

def remote : RemoteKeySet where
  slot := 0
  url := ⟨"https://op/keys", ⟨"https", "", some "op", none, "/keys", none, none⟩⟩
  lifespan := 300
  refreshInterval := 0

def keysResponse (keys : String) : Http.Response where
  status := 200
  contentType := none
  body := Bytes.ofText ("\x7b\"keys\":[" ++ keys ++ "]\x7d")

def keyText (id : String) : String :=
  "\x7b\"kty\":\"oct\",\"kid\":\"" ++ id ++ "\",\"k\":\"c2VjcmV0\"\x7d"

def client : Http.Client
  | 0 => .error "refused"
  | 1 => .ok (keysResponse (keyText "k1"))
  | 2 => .ok ⟨500, none, []⟩
  | _ => .ok (keysResponse (keyText "k1" ++ "," ++ keyText "k2"))

def questions : List (Nat × Question Signing) :=
  [(0, .signature none (.hmac .sha256)),
    (5, .signature (some "k1") (.hmac .sha256)),
    (5, .decryption none .direct (.gcm .bits128)),
    (5, .signature (some "k2") (.hmac .sha256)),
    (5, .signature (some "k1") (.hmac .sha256)),
    (5, .signature (some "k2") (.hmac .sha256))]

def outcome (exchange : Exchange Signing) : Nat × Option (List (Option String)) :=
  (exchange.after.requests.length, exchange.answer.toOption.map fun keys => keys.map Key.id)

theorem questions_answered :
    (Session.start client).kept remote.slot = none ∧ remote.Settled (duration questions) ∧
      (remote.exchanges questions (Session.start client)).map outcome =
        [(1, none), (2, some [some "k1"]), (2, some [some "k1"]), (3, none), (3, some [some "k1"]),
          (4, some [some "k2"])] ∧
      ∀ exchange ∈ remote.exchanges questions (Session.start client),
        remote.Answered (Session.start client) exchange := by
  have settled : remote.Settled (duration questions) :=
    ⟨.inr (by decide), .inl rfl⟩
  refine ⟨rfl, settled, ?_, ?_⟩
  · decide +kernel
  · exact remote.exchanges_answered (Session.start client) questions rfl settled

end Sample

end RemoteKeySet

end RelyingParty
