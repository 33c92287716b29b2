import SessionAuth.Proofs.Http.Login
import SessionAuth.Proofs.Service.History
import SessionAuth.Proofs.Text.Blank

/-!
# The labels of sessions

A session shows its owner the address and the device of the client that opened it or carried it on
last.  Each label can come from several places, and the first of them that is not blank is meant to
count (`ClientInfo.promised`), so that no label is ever blank.

What is recorded is that, but for two cases.  Whether the list of addresses is blank is asked before
its first address is cut out of it, so that a list that begins with a comma leaves a blank address
(`ClientInfo.ip_recorded`); and a program may call itself by a name of blanks, which is not empty
(`ClientInfo.device_recorded`).

`Service.labels_of_requests` follows the labels into the session store.
-/

set_option autoImplicit false

namespace SessionAuth
namespace Http

open Environment Fallible Deployment Text

/-! ## Values of headers -/

/-- The value of a header that counts: the first one, if it is plain text. -/
def Headers.value? (hs : Headers) (name : String) : Option String :=
  (hs.first? name).filter isPlain

theorem Headers.first?_eq_some_iff {hs : Headers} {name v : String} :
    hs.first? name = some v ↔ ∃ before n after, hs = before ++ (n, v) :: after ∧
      equalIgnoringAsciiCase n name ∧ ∀ h ∈ before, ¬ equalIgnoringAsciiCase h.1 name := by
  rw [first?, all, List.head?_map, List.head?_filter, Option.map_eq_some_iff]
  constructor
  · rintro ⟨⟨n, v⟩, hfound, rfl⟩
    obtain ⟨hname, before, after, rfl, hbefore⟩ := List.find?_eq_some_iff_append.1 hfound
    exact ⟨before, n, after, rfl, hname, fun h hh => by simpa using hbefore h hh⟩
  · rintro ⟨before, n, after, rfl, hname, hbefore⟩
    refine ⟨(n, v), List.find?_eq_some_iff_append.2 ⟨hname, before, after, rfl, ?_⟩, rfl⟩
    exact fun h hh => by simpa using hbefore h hh

/-- Only the first value of a name counts, and one that is not plain text counts as absent. -/
theorem Headers.value?_eq_some_iff {hs : Headers} {name v : String} :
    hs.value? name = some v ↔ isPlain v ∧ ∃ before n after, hs = before ++ (n, v) :: after ∧
      equalIgnoringAsciiCase n name ∧ ∀ h ∈ before, ¬ equalIgnoringAsciiCase h.1 name := by
  rw [value?, Option.filter_eq_some_iff, first?_eq_some_iff, and_comm]

theorem nonBlank?_eq (s : String) : nonBlank? s = if allBlank s then none else some (trim s) := by
  rw [nonBlank?, Option.filter_some, isEmpty_trim]
  cases allBlank s <;> rfl

/-! ## The first address of a list -/

/-- What stands in front of the first comma. -/
def beforeComma (s : String) : String := String.ofList (s.toList.takeWhile (· ≠ ','))

theorem firstHop_eq (s : String) : firstHop s = trim (beforeComma s) := by
  obtain ⟨parts, hparts⟩ := exists_split_eq ',' s.toList
  rw [firstHop, hparts, trim, beforeComma, String.toList_ofList]

/-- The blanks around a list make no difference to its first address. -/
theorem firstHop_trim (s : String) : firstHop (trim s) = firstHop s := by
  have hcut : ∀ c, isBlank c → decide (c ≠ ',') := fun c hc => by
    rw [decide_eq_true_iff]
    rintro rfl
    exact absurd hc (by decide)
  simp only [firstHop_eq, trim, beforeComma, String.toList_ofList, trimChars_takeWhile hcut]

/-- Whether a list begins with a comma, the blanks in front of it aside. -/
def LeadsWithComma (s : String) : Prop :=
  ∃ before rest, (∀ c ∈ before, isBlank c) ∧ s.toList = before ++ ',' :: rest

/-- These are the lists whose first address is blank though they are not. -/
theorem leadsWithComma_iff {s : String} :
    LeadsWithComma s ↔ allBlank (beforeComma s) ∧ allBlank s = false := by
  simp only [beforeComma, ← Bool.not_eq_true, allBlank_iff, String.toList_ofList]
  constructor
  · rintro ⟨before, rest, hbefore, heq⟩
    have hcut : s.toList.takeWhile (· ≠ ',') = before := by
      rw [heq, List.takeWhile_append_of_pos, List.takeWhile_cons_of_neg (by simp),
        List.append_nil]
      rintro c hc
      rw [decide_eq_true_iff]
      rintro rfl
      exact absurd (hbefore _ hc) (by decide)
    refine ⟨hcut ▸ hbefore, fun hall => ?_⟩
    exact absurd (hall ',' (by simp [heq])) (by decide)
  · rintro ⟨hbefore, hall⟩
    have hsplit := List.takeWhile_append_dropWhile (p := (· ≠ ',')) (l := s.toList)
    cases hrest : s.toList.dropWhile (· ≠ ',') with
    | nil =>
      rw [hrest, List.append_nil] at hsplit
      exact absurd (hsplit ▸ hbefore) hall
    | cons c rest =>
      have hhead := List.head?_dropWhile_not (· ≠ ',') s.toList
      rw [hrest] at hhead
      have hc : c = ',' := by simpa using hhead
      rw [hrest, hc] at hsplit
      exact ⟨_, rest, hbefore, hsplit.symm⟩

/-! ## What is promised, and what is recorded -/

/-- The first of some texts that is there and not blank, and otherwise that nothing is known. -/
def firstKnown : List (Option String) → String
  | [] => unknownLabel
  | some s :: rest => if allBlank s then firstKnown rest else s
  | none :: rest => firstKnown rest

theorem allBlank_firstKnown (l : List (Option String)) : allBlank (firstKnown l) = false := by
  induction l with
  | nil => rfl
  | cons s rest ih =>
    cases s with
    | none => exact ih
    | some s =>
      rw [firstKnown]
      split
      · exact ih
      · rename_i hs
        exact Bool.not_eq_true _ ▸ hs

theorem firstKnown_trim (s : Option String) (rest : List (Option String)) :
    firstKnown (s.map trim :: rest) = (s.bind nonBlank?).getD (firstKnown rest) := by
  cases s with
  | none => rfl
  | some s =>
    rw [Option.map_some, Option.bind_some, nonBlank?_eq, firstKnown, allBlank_trim]
    split <;> rfl

/-- The first address of a list that is not blank is taken without a look at it. -/
theorem firstHop_cases (hops : Option String) (rest : List (Option String)) :
    (∃ v ∈ hops, LeadsWithComma v) ∧
        ((hops.bind nonBlank?).map firstHop).getD (firstKnown rest) = "" ∨
      (¬ ∃ v ∈ hops, LeadsWithComma v) ∧
        ((hops.bind nonBlank?).map firstHop).getD (firstKnown rest) =
          firstKnown (hops.map (fun v => trim (beforeComma v)) :: rest) := by
  cases hops with
  | none => exact .inr ⟨fun ⟨_, hv, _⟩ => (nomatch hv), rfl⟩
  | some v =>
    simp only [Option.mem_some_iff, exists_eq_left', leadsWithComma_iff, Option.bind_some,
      nonBlank?_eq, Option.map_some, firstKnown, allBlank_trim]
    cases hblank : allBlank v with
    | true =>
      -- what stands in front of the first comma of blanks is blank
      have hfirst : allBlank (beforeComma v) := by
        rw [allBlank_iff, beforeComma, String.toList_ofList]
        exact fun c hc => allBlank_iff.1 hblank c (List.takeWhile_sublist _ |>.mem hc)
      exact .inr ⟨by simp, by simp [hfirst]⟩
    | false =>
      have hhop : firstHop (trim v) = trim (beforeComma v) := by rw [firstHop_trim, firstHop_eq]
      simp only [Bool.false_eq_true, ↓reduceIte, Option.map_some, Option.getD_some, hhop, and_true]
      cases hfirst : allBlank (beforeComma v) with
      | true =>
        refine .inl ⟨rfl, ?_⟩
        rwa [← String.isEmpty_iff, isEmpty_trim]
      | false => exact .inr ⟨Bool.false_ne_true, rfl⟩

/-- The name of a program is taken if it is not empty, whether or not it is blank. -/
theorem agent_cases (agent : Option String) :
    (∃ v ∈ agent, allBlank v ∧ v.isEmpty = false) ∧
        allBlank ((agent.filter fun s => !s.isEmpty).getD unknownLabel) ∨
      (¬ ∃ v ∈ agent, allBlank v ∧ v.isEmpty = false) ∧
        (agent.filter fun s => !s.isEmpty).getD unknownLabel = firstKnown [agent] := by
  cases agent with
  | none => exact .inr ⟨fun ⟨_, hv, _⟩ => (nomatch hv), rfl⟩
  | some v =>
    simp only [Option.mem_some_iff, exists_eq_left', Option.filter_some, firstKnown]
    cases hempty : v.isEmpty with
    | true =>
      have hblank : allBlank v := by
        rw [String.isEmpty_iff.1 hempty]
        rfl
      exact .inr ⟨by simp, by simp [hblank]⟩
    | false =>
      cases hblank : allBlank v with
      | true => exact .inl ⟨by simp, by simp [hblank]⟩
      | false => exact .inr ⟨by simp, by simp⟩

theorem bind_nonBlank?_eq_none_iff {s : Option String} :
    s.bind nonBlank? = none ↔ ∀ d ∈ s, allBlank d := by
  cases s with
  | none => exact ⟨fun _ _ hd => (nomatch hd), fun _ => rfl⟩
  | some s =>
    rw [Option.bind_some, nonBlank?_eq]
    simp

namespace ClientInfo

/-- The labels that are meant to be recorded for a request with these headers, whose body names a
device or none. -/
def promised (hs : Headers) (named : Option String) : ClientInfo where
  ip := firstKnown [(hs.value? "x-forwarded-for").map fun v => trim (beforeComma v),
    (hs.value? "x-real-ip").map trim]
  device := firstKnown [named.map trim, hs.value? "user-agent"]

/-- The labels that are recorded. -/
def recorded (hs : Headers) (named : Option String) : ClientInfo :=
  ⟨(ofHeaders hs).ip, (ofHeaders hs).deviceOr named⟩

/-- Whether the first address that proxies name is blank, though they name something. -/
def HidesAddress (hs : Headers) : Prop :=
  ∃ v ∈ hs.value? "x-forwarded-for", LeadsWithComma v

/-- Whether a program calls itself by a name of blanks, and the body names no device. -/
def HidesDevice (hs : Headers) (named : Option String) : Prop :=
  (∀ d ∈ named, allBlank d) ∧ ∃ v ∈ hs.value? "user-agent", allBlank v ∧ v.isEmpty = false

/-- The address is as promised unless the list of addresses begins with a comma; then it is
empty. -/
theorem ip_recorded (hs : Headers) (named : Option String) :
    HidesAddress hs ∧ (recorded hs named).ip = "" ∨
      ¬ HidesAddress hs ∧ (recorded hs named).ip = (promised hs named).ip := by
  have hip : (recorded hs named).ip = (((hs.value? "x-forwarded-for").bind nonBlank?).map
      firstHop).getD (firstKnown [(hs.value? "x-real-ip").map trim]) := by
    rw [firstKnown_trim, recorded, ofHeaders, plainHeader?, ← Headers.value?]
    cases (hs.value? "x-forwarded-for").bind nonBlank? <;> rfl
  rw [hip]
  exact firstHop_cases _ _

/-- The device is as promised unless all that there is of it is a name of blanks. -/
theorem device_recorded (hs : Headers) (named : Option String) :
    HidesDevice hs named ∧ allBlank (recorded hs named).device ∨
      ¬ HidesDevice hs named ∧ (recorded hs named).device = (promised hs named).device := by
  have hdevice : (recorded hs named).device = (named.bind nonBlank?).getD
      (((hs.value? "user-agent").filter fun s => !s.isEmpty).getD unknownLabel) := rfl
  rw [hdevice, promised, firstKnown_trim, HidesDevice, ← bind_nonBlank?_eq_none_iff]
  cases named.bind nonBlank? with
  | some d => exact .inr ⟨fun h => (nomatch h.1), rfl⟩
  | none => simpa using agent_cases (hs.value? "user-agent")

/-- What is recorded is blank exactly where it is not what is promised. -/
structure Records (hs : Headers) (named : Option String) : Prop where
  ip : (recorded hs named).ip = (promised hs named).ip ↔ ¬ HidesAddress hs
  ip_blank : allBlank (recorded hs named).ip ↔ HidesAddress hs
  device : (recorded hs named).device = (promised hs named).device ↔ ¬ HidesDevice hs named
  device_blank : allBlank (recorded hs named).device ↔ HidesDevice hs named

theorem records (hs : Headers) (named : Option String) : Records hs named := by
  have hip : allBlank (promised hs named).ip = false := allBlank_firstKnown _
  have hdevice : allBlank (promised hs named).device = false := allBlank_firstKnown _
  have hkept : ∀ {label promise : String} {slip : Prop}, allBlank promise = false →
      (slip ∧ allBlank label ∨ ¬ slip ∧ label = promise) →
        (label = promise ↔ ¬ slip) ∧ (allBlank label ↔ slip) := by
    rintro label promise slip hpromise (⟨hslip, hblank⟩ | ⟨hslip, rfl⟩)
    · refine ⟨⟨?_, fun h => absurd hslip h⟩, fun _ => hslip, fun _ => hblank⟩
      rintro rfl
      exact absurd hblank (by simp [hpromise])
    · exact ⟨⟨fun _ => hslip, fun _ => rfl⟩, by simp [hpromise, hslip]⟩
  have hempty : ∀ {label : String}, label = "" → allBlank label := by
    rintro _ rfl
    rfl
  obtain ⟨hip₁, hip₂⟩ := hkept hip ((ip_recorded hs named).imp_left fun h => ⟨h.1, hempty h.2⟩)
  obtain ⟨hdevice₁, hdevice₂⟩ := hkept hdevice (device_recorded hs named)
  exact ⟨hip₁, hip₂, hdevice₁, hdevice₂⟩

end ClientInfo

/-! ## Labels in the session store -/

/-- The labels of a session. -/
def labelsOf (session : Session) : ClientInfo := ⟨session.ip, session.device⟩

variable {P : ClientInfo → Prop}

/-- A question that brings labels into the session store brings only such. -/
def Brings (P : ClientInfo → Prop) : Question → Prop
  | .sessions (.call (.create session _)) => P (labelsOf session)
  | .sessions (.call (.rotate x)) => P ⟨x.ip, x.device⟩
  | _ => True

theorem brings_of_isStill {q : Question} (h : IsStill q) : Brings P q := by
  cases q with
  | sessions q =>
    cases q with
    | indexedUsers => exact trivial
    | call c => cases c <;> first | exact trivial | cases h
  | _ => exact trivial

/-- Whether all sessions of a process have such labels. -/
def Labelled (P : ClientInfo → Prop) (d : Deployment) : Prop :=
  ∀ id e, d.sessions.sessions.get? id = some e → P (labelsOf e.value)

theorem Labelled.question {f : Supply} {d : Deployment} {q : Question} (hq : Brings P q)
    (h : Labelled P d) : Labelled P (serve f q d).2 := by
  cases q with
  | sessions q =>
    simp only [serve, answer]
    split
    · have heffect := SessionStore.effect_answer d.clock.elapsed d.sessions q
      intro id e he
      generalize hstore : (SessionStore.answer d.clock.elapsed q d.sessions).2 = store at heffect
      replace he : store.sessions.get? id = some e := hstore ▸ he
      cases heffect with
      | pruned hp => exact h id e (hp.sessions_get? he)
      | opened =>
        rw [SessionStore.sessions_opened, Table.get?_set_eq_some_iff] at he
        rcases he with ⟨rfl, rfl⟩ | ⟨-, he⟩
        · exact hq
        · exact h id e he
      | carriedOn =>
        rw [SessionStore.sessions_carriedOn, Table.get?_set_eq_some_iff] at he
        rcases he with ⟨rfl, rfl⟩ | ⟨-, he⟩
        · exact hq
        · exact h id e he
    · exact h
  | users c =>
    simp only [serve, answer]
    split <;> exact h
  | _ => exact h

theorem Labelled.run {α : Type} {p : UseCase α} (hp : Asks (Brings P) p) {f : Supply}
    {d : Deployment} (h : Labelled P d) : Labelled P (runOn (serve f) p d).2 :=
  Asks.run (fun _ _ hq hd => hd.question hq) hp h

/-! ## What endpoints record -/

/-- Whether the body of a request that opens a session or carries one on names a device, or none. -/
def Request.Names (r : Request) (named : Option String) : Prop :=
  (∃ form, Form.login.read r = .ok form ∧ form.device = named) ∨
    ∃ form, Form.refresh.read r = .ok form ∧ form.device = named

section Endpoints

variable {s : Setup} {r : Request} {params : RawParams}

theorem asksBrings_login {input : Auth.Login} (h : P ⟨input.ip, input.device⟩) :
    Asks (Brings P) (Auth.login s input) := by
  simp only [Auth.login]
  split
  · exact asks_throw_bind _ _
  refine Asks.bind (Auth.asks_verifyCredentials trivial) fun user => ?_
  refine Asks.bind (asks_lift _) fun _ => ?_
  refine Asks.bind (Auth.asks_issueRefresh s trivial trivial) fun refresh => ?_
  refine Asks.bind (Sessions.asks_openSession trivial trivial fun session _ _ hip hdevice => ?_)
    fun session => Auth.asks_completePair s trivial trivial
  show P ⟨session.ip, session.device⟩
  rw [hip, hdevice]
  exact h

theorem asksBrings_refresh {input : Auth.Refresh} (h : P ⟨input.ip, input.device⟩) :
    Asks (Brings P) (Auth.refresh s input) := by
  refine Asks.bind (asks_now trivial) fun now => Asks.bind (asks_lift _) fun claims => ?_
  refine Asks.bind (Sessions.asks_hasJti trivial) fun used => ?_
  dsimp only
  split
  · exact asks_throw_bind _ _
  refine Asks.bind ((Authorization.looks_checkStatus _ _).mono fun _ hq =>
    brings_of_isStill (Looks.isStill hq)) fun _ => ?_
  refine Asks.bind (Auth.asks_issueRefresh s trivial trivial) fun issued => ?_
  refine Asks.bind (Sessions.asks_renew trivial fun x _ hip hdevice => ?_)
    fun session => Auth.asks_completePair s trivial trivial
  show P ⟨x.ip, x.device⟩
  rw [hip, hdevice]
  exact h

/-- An operation that gives out no tokens, with the answer that is made of its result. -/
theorem asksBrings_ofData {α : Type} (s : Setup) (op : Operation α) (hop : ¬ op.GivesOut)
    (status : Nat) (data : α → Json) :
    Asks (Brings P) (do return Response.ofData status (data (← op.body s))) :=
  Asks.bind ((op.asksStill hop).mono fun _ => brings_of_isStill) fun _ => asks_pure _

theorem asksBrings_caller : Asks (Brings P) (Endpoint.caller s r) := by
  rw [Endpoint.caller]
  split
  · exact (Auth.looks_authenticate _).mono fun _ hq => brings_of_isStill (Looks.isStill hq)
  · exact asks_throw _

theorem asksBrings_withParams {k : List String → UseCase Response}
    (hk : ∀ values, Asks (Brings P) (k values)) :
    Asks (Brings P) (Endpoint.withParams params k) := by
  rw [Endpoint.withParams]
  split
  · exact hk _
  · exact asks_pure _

/-- **What a request records.**  Whatever endpoint it goes to, no labels are brought into the
session store but those of its headers and of the device that its body names. -/
theorem asksBrings_respond (s : Setup) (params : RawParams) (e : Endpoint)
    (h : ∀ named, r.Names named → P (.recorded r.headers named)) :
    Asks (Brings P) (e.respond s r params) := by
  have hcaller : Asks (Brings P) (Endpoint.caller s r) := asksBrings_caller
  have hparam : ∀ {k : String → UseCase Response}, (∀ value, Asks (Brings P) (k value)) →
      Asks (Brings P) (Endpoint.withParam params k) :=
    fun hk => asksBrings_withParams fun values => hk _
  cases e with
  | health =>
    refine Asks.bind (Asks.attempt (asks_cacheCall trivial)) fun _ => ?_
    exact Asks.bind (asks_ask trivial) fun _ => asks_pure _
  | login =>
    refine asks_lift_bind fun form hform => ?_
    exact Asks.bind (asksBrings_login (h _ (.inl ⟨form, hform, rfl⟩))) fun _ => asks_pure _
  | refresh =>
    refine asks_lift_bind fun form hform => ?_
    exact Asks.bind (asksBrings_refresh (h _ (.inr ⟨form, hform, rfl⟩))) fun _ => asks_pure _
  | register =>
    refine Asks.bind (asks_lift _) fun form => ?_
    exact asksBrings_ofData s (.register form.email form.password) id ..
  | logout =>
    refine Asks.bind hcaller fun c => ?_
    exact asksBrings_ofData s (.logout c) id _ fun _ => Endpoint.message "Logged out"
  | me => exact Asks.bind hcaller fun c => asksBrings_ofData s (.profile c) id ..
  | changePassword =>
    refine Asks.bind hcaller fun c => Asks.bind (asks_lift _) fun form => ?_
    exact asksBrings_ofData s (.changePassword c form.current form.new) id _ _
  | listSessions => exact Asks.bind hcaller fun c => asksBrings_ofData s (.listSessions c) id _ _
  | revokeSessions =>
    refine Asks.bind hcaller fun c => Asks.bind (asks_lift _) fun form => ?_
    exact asksBrings_ofData s (.revokeSessions c form.sessionIds form.removeOthers) id _ _
  | listUsers =>
    refine Asks.bind hcaller fun c => Asks.bind (asks_lift _) fun query => ?_
    refine Asks.bind (asks_lift _) fun filter => ?_
    exact asksBrings_ofData s (.listUsers c filter query.pageRequest) id _ _
  | createUser =>
    refine Asks.bind hcaller fun c => Asks.bind (asks_lift _) fun form => ?_
    refine Asks.bind (asks_lift _) fun role => ?_
    have hcreate : ∀ status, Asks (Brings P) (do return Response.ofData 201 (← UserAdmin.create s c
        ⟨form.email, form.password, role, status⟩).toJson) :=
      fun status => asksBrings_ofData s
        (.createUser c ⟨form.email, form.password, role, status⟩) id _ _
    dsimp only
    split
    · exact Asks.bind (asks_lift _) hcreate
    · exact Asks.bind (asks_pure _) hcreate
  | getUser =>
    refine Asks.bind hcaller fun c => hparam fun id => Asks.bind (asks_lift _) fun user => ?_
    exact asksBrings_ofData s (.getUser c user) (·) _ _
  | deleteUser =>
    refine Asks.bind hcaller fun c => hparam fun id => Asks.bind (asks_lift _) fun user => ?_
    exact asksBrings_ofData s (.deleteUser c user) (·) _ fun _ => Endpoint.message "User deleted"
  | changeRole =>
    refine Asks.bind hcaller fun c => hparam fun id => Asks.bind (asks_lift _) fun name => ?_
    refine Asks.bind (asks_lift _) fun user => Asks.bind (asks_lift _) fun role => ?_
    exact asksBrings_ofData s (.changeRole c user role) (·) _ fun _ =>
      Endpoint.message ("Role changed to " ++ role.name)
  | changeStatus =>
    refine Asks.bind hcaller fun c => hparam fun id => Asks.bind (asks_lift _) fun name => ?_
    refine Asks.bind (asks_lift _) fun user => Asks.bind (asks_lift _) fun status => ?_
    exact asksBrings_ofData s (.changeStatus c user status) (·) _ fun _ =>
      Endpoint.message ("Status changed to " ++ status.name)
  | listPermissions =>
    refine Asks.bind hcaller fun c => hparam fun name => Asks.bind (asks_lift _) fun role => ?_
    exact asksBrings_ofData s (.listPermissions c role) id _ fun permissions =>
      .obj [("role", role.toJson), ("permissions", Permission.listToJson permissions)]
  | grantPermission =>
    refine Asks.bind hcaller fun c => hparam fun name => Asks.bind (asks_lift _) fun text => ?_
    refine Asks.bind (asks_lift _) fun role => Asks.bind (asks_lift _) fun permission => ?_
    exact asksBrings_ofData s (.grant c role permission) id _ Endpoint.changed
  | revokePermission =>
    refine Asks.bind hcaller fun c => asksBrings_withParams fun values => ?_
    refine Asks.bind (asks_lift _) fun role => Asks.bind (asks_lift _) fun permission => ?_
    exact asksBrings_ofData s (.revoke c role permission) id _ Endpoint.changed

end Endpoints

/-! ## Processes that answer requests -/

/-- What can become of a process that answers requests over HTTP, with these requests. -/
inductive Served (s : Setup) (server : ServerSettings) (f : Supply) (d₀ : Deployment) :
    List Request → Deployment → Prop
  | start : Served s server f d₀ [] d₀
  /-- A request is answered. -/
  | request {requests : List Request} {d : Deployment} (h : Served s server f d₀ requests d)
      (r : Request) :
      Served s server f d₀ (requests ++ [r]) ((Service.respond s server r).run (serve f) d).2
  /-- One of the handlers that wait runs. -/
  | handle {requests : List Request} {d : Deployment} (h : Served s server f d₀ requests d)
      (task : Invalidator × Event) :
      Served s server f d₀ requests ((task.1.handle task.2).runOn (serve f) d).2
  /-- The sessions are swept. -/
  | sweep {requests : List Request} {d : Deployment} (h : Served s server f d₀ requests d) :
      Served s server f d₀ requests ((sessions SessionStore.sweepAll).runOn (serve f) d).2
  /-- Something happens that the session store has no part in: time passes, or the cache loses an
  entry. -/
  | elsewhere {requests : List Request} {d d' : Deployment} (h : Served s server f d₀ requests d)
      (hsessions : d'.sessions = d.sessions) : Served s server f d₀ requests d'

section Served

variable {s : Setup} {server : ServerSettings} {f : Supply} {d₀ d : Deployment}
  {requests : List Request}

theorem Labelled.respond {r : Request} (h : ∀ named, r.Names named → P (.recorded r.headers named))
    (hd : Labelled P d) : Labelled P ((Service.respond s server r).run (serve f) d).2 := by
  by_cases hmatch : ∃ route params e, r.Matches route params e
  · obtain ⟨route, params, e, hmatch⟩ := hmatch
    rw [Service.run_respond (serve f) d s server hmatch]
    exact hd.run (asksBrings_respond s params e h)
  · simp only [not_exists] at hmatch
    obtain ⟨response, -, hrun⟩ := Service.run_respond_of_no_match (serve f) s server hmatch
    rw [hrun]
    exact hd

theorem Served.labelled (h : Served s server f d₀ requests d) (hstart : Labelled P d₀)
    (hrequests : ∀ r ∈ requests, ∀ named, r.Names named → P (.recorded r.headers named)) :
    Labelled P d := by
  induction h with
  | start => exact hstart
  | request _ r ih =>
    refine Labelled.respond ?_ (ih fun r' hr' => hrequests r' (List.mem_append_left _ hr'))
    exact hrequests r (List.mem_append_right _ List.mem_cons_self)
  | handle _ task ih =>
    refine (ih hrequests).run ((Invalidator.asksStill_handle task.1 task.2).mono fun _ => ?_)
    exact brings_of_isStill
  | sweep _ ih => exact (ih hrequests).run (asks_sweepAll trivial fun _ => trivial)
  | elsewhere _ hsessions ih => exact fun id e he => ih hrequests id e (hsessions ▸ he)

/-- **The labels of sessions.**  Every session is labelled as it was at the start, or with what was
recorded for a request that was answered.  That is what was promised, and not blank, unless the list
of addresses of the request began with a comma or its program called itself by a name of blanks. -/
theorem Service.labels_of_requests (h : Served s server f d₀ requests d) :
    (∀ id e, d.sessions.sessions.get? id = some e →
      (∃ id₀ e₀, d₀.sessions.sessions.get? id₀ = some e₀ ∧ labelsOf e.value = labelsOf e₀.value) ∨
        ∃ r ∈ requests, ∃ named, r.Names named ∧ labelsOf e.value = .recorded r.headers named) ∧
    (∀ hs named, ClientInfo.Records hs named) ∧
    ((∀ id e, d₀.sessions.sessions.get? id = some e →
        allBlank e.value.ip = false ∧ allBlank e.value.device = false) →
      (∀ r ∈ requests, ∀ named, r.Names named →
        ¬ ClientInfo.HidesAddress r.headers ∧ ¬ ClientInfo.HidesDevice r.headers named) →
      ∀ id e, d.sessions.sessions.get? id = some e →
        allBlank e.value.ip = false ∧ allBlank e.value.device = false) := by
  refine ⟨?_, ClientInfo.records, fun hstart hrequests => ?_⟩
  · refine h.labelled (P := fun labels => (∃ id₀ e₀, d₀.sessions.sessions.get? id₀ = some e₀ ∧
      labels = labelsOf e₀.value) ∨ ∃ r ∈ requests, ∃ named, r.Names named ∧
        labels = .recorded r.headers named) ?_ ?_
    · exact fun id e he => .inl ⟨id, e, he, rfl⟩
    · exact fun r hr named hnamed => .inr ⟨r, hr, named, hnamed, rfl⟩
  · refine h.labelled (P := fun labels => allBlank labels.ip = false ∧
      allBlank labels.device = false) hstart fun r hr named hnamed => ?_
    obtain ⟨haddress, hdevice⟩ := hrequests r hr named hnamed
    have hrecords := ClientInfo.records r.headers named
    rw [← Bool.not_eq_true, ← Bool.not_eq_true, hrecords.ip_blank, hrecords.device_blank]
    exact ⟨haddress, hdevice⟩

/-- A request to log in with the right credentials opens a session with its labels. -/
theorem Service.exists_session_of_login (server : ServerSettings) {r : Request}
    {form : LoginForm} {user : User} {ttls : Ttls} {expires : Timestamp}
    (hmethod : r.method = "POST") (hpath : r.path = "/api/auth/login")
    (hform : Form.login.read r = .ok form) (hreach : d.InReach)
    (h : Auth.Admits s f d (form.input r) user ttls expires) :
    ∃ id e, ((respond s server r).run (serve f) d).2.sessions.sessions.get? id = some e ∧
      labelsOf e.value = .recorded r.headers form.device := by
  obtain ⟨route, params, hmatch⟩ := matches_login hmethod hpath
  obtain ⟨tokens, htokens, -⟩ := Auth.runOn_login hreach h
  rw [run_respond (serve f) d s server hmatch, Endpoint.respond, runOn_bind, runOn_lift, hform]
  dsimp only
  rw [runOn_bind, ← LoginForm.input, htokens]
  dsimp only [runOn_pure]
  rw [SessionStore.sessions_opened]
  exact ⟨_, _, (Table.get?_set _ _ _ _).trans (if_pos rfl), rfl⟩

/-! ### A list of addresses that begins with a comma -/

namespace LeadingComma

/-- The headers of a request that came through a proxy which does not know its client. -/
def headers : Headers :=
  [("content-type", "application/json"), ("x-forwarded-for", ", 10.0.0.1"),
    ("x-real-ip", "10.0.0.9"), ("user-agent", "curl")]

/-- The first login, with these headers. -/
def request : Request := { firstLogin with headers := headers }

theorem recorded_headers : ClientInfo.recorded headers none = ⟨"", "curl"⟩ := by decide

theorem promised_headers : ClientInfo.promised headers none = ⟨"10.0.0.9", "curl"⟩ := by decide

def form : LoginForm := ⟨"someone@example.org", "a password of some length", none⟩

theorem read_request : Form.login.read request = .ok form := by
  have hread : (Form.login.read request).toOption.map (fun f => (f.email, f.password, f.device)) =
      some (form.email, form.password, form.device) := by decide +kernel
  cases hform : Form.login.read request with
  | error e =>
    rw [hform] at hread
    cases hread
  | ok found =>
    rw [hform] at hread
    obtain ⟨email, password, device⟩ := found
    cases hread
    rfl

/-- The request is let in. -/
theorem admits : Auth.Admits Sample.setup Auth.FirstLogin.supply Auth.FirstLogin.process
    (form.input request) Auth.FirstLogin.user ⟨86400, 86400⟩ (.ofSeconds 86400) where
  toOpens := Auth.FirstLogin.admits.toOpens
  email := Auth.FirstLogin.admits.email
  password := Auth.FirstLogin.admits.password
  found := Auth.FirstLogin.admits.found
  verified := Auth.FirstLogin.admits.verified

/-- The body of the request names no device. -/
theorem names_request {named : Option String} (h : request.Names named) : named = none := by
  rcases h with ⟨found, hfound, rfl⟩ | ⟨found, hfound, rfl⟩
  · cases read_request.symm.trans hfound
    rfl
  · have hread : (Form.refresh.read request).toOption.map (·.device) = none := by decide +kernel
    rw [hfound] at hread
    cases hread

end LeadingComma

open LeadingComma in
/-- After a request like that, all sessions have no address. -/
theorem Service.labels_of_requests_leadingComma :
    Served Sample.setup {} Auth.FirstLogin.supply Auth.FirstLogin.process [request]
        ((respond Sample.setup {} request).run (serve Auth.FirstLogin.supply)
          Auth.FirstLogin.process).2 ∧
      ∀ id e, ((respond Sample.setup {} request).run (serve Auth.FirstLogin.supply)
        Auth.FirstLogin.process).2.sessions.sessions.get? id = some e →
          labelsOf e.value = ⟨"", "curl"⟩ := by
  have hserved : Served Sample.setup {} Auth.FirstLogin.supply Auth.FirstLogin.process
      [request] _ := Served.start.request request
  refine ⟨hserved, fun id e he => ?_⟩
  rcases (labels_of_requests hserved).1 id e he with
    ⟨id₀, e₀, he₀, -⟩ | ⟨r, hr, named, hnamed, hlabels⟩
  · exact absurd he₀ nofun
  · obtain rfl := List.mem_singleton.1 hr
    obtain rfl := names_request hnamed
    exact hlabels.trans recorded_headers

open LeadingComma in
/-- What is recorded is not always what is promised, and there are such sessions. -/
theorem Service.not_always_promised :
    (∃ id e, ((respond Sample.setup {} request).run (serve Auth.FirstLogin.supply)
      Auth.FirstLogin.process).2.sessions.sessions.get? id = some e ∧
        labelsOf e.value = ⟨"", "curl"⟩) ∧
      ClientInfo.promised request.headers none = ⟨"10.0.0.9", "curl"⟩ ∧
      ClientInfo.recorded [("user-agent", "\t")] none = ⟨"unknown", "\t"⟩ := by
  obtain ⟨id, e, he, hlabels⟩ := exists_session_of_login {} rfl rfl read_request
    Auth.FirstLogin.inReach admits
  exact ⟨⟨id, e, he, hlabels.trans recorded_headers⟩, promised_headers, by decide⟩

end Served

end Http
end SessionAuth
