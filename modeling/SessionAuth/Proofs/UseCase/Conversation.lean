import SessionAuth.Proofs.Session.Lifetimes
import SessionAuth.Proofs.UseCase.Questions

/-!
# What logins and refreshes promise

A refresh asks whether its token is still in use long before it exchanges it, and anything may
happen in between.  What can be said of its conversation alone is `MayAsk`: the ids under which a
login or a refresh brings tokens into the store are new ids that it asked for itself, it writes
once, and a refresh exchanges only the token that it was given, after it has seen it in use.
`keeps_body` shows that all of them keep to it, whatever they are answered.
-/

set_option autoImplicit false

namespace SessionAuth
namespace Auth

open Environment Fallible

/-! ## Logins and refreshes -/

/-- What a client asks for. -/
inductive Request where
  | login (input : Login)
  | refresh (input : Refresh)

/-- The program of a request. -/
def Request.body (s : Setup) : Request → Program Environment.interface (Except Error Tokens)
  | login input => (Auth.login s input).run
  | refresh input => (Auth.refresh s input).run

/-- A question that changes nothing in the session store. -/
def IsQuiet : Question → Prop
  | .sessions (.call (.hasJti _)) => True
  | .sessions _ => False
  | _ => True

/-- What a request may ask after what was said. -/
inductive MayAsk (s : Setup) : Request → Talk → Question → Prop
  | quiet {request : Request} {said : Talk} {q : Question} (hquiet : IsQuiet q) :
      MayAsk s request said q
  | create {input : Login} {said : Talk} {session : Session} {ttls : Ttls}
      (hnew : ⟨.newId, session.currentJti⟩ ∈ said) (hfirst : ∀ x ∈ said, IsQuiet x.question) :
      MayAsk s (.login input) said (.sessions (.call (.create session ttls)))
  | rotate {input : Refresh} {said : Talk} {r : Rotation} {claims : Claims}
      (hclaims : s.codec.verify input.refreshToken = .ok claims) (hjti : claims.jti = r.oldJti)
      (hused : ⟨.sessions (.call (.hasJti r.oldJti)), .ok true⟩ ∈ said)
      (hnew : ⟨.newId, r.newJti⟩ ∈ said) (hfirst : ∀ x ∈ said, IsQuiet x.question)
      (hvalid : r.ttls.isValid) :
      MayAsk s (.refresh input) said (.sessions (.call (.rotate r)))

/-- Before a request writes it asks quiet questions only, so that it writes once. -/
theorem MayAsk.first {s : Setup} {request : Request} {said : Talk} {q : Question}
    (h : MayAsk s request said q) (hq : ¬ IsQuiet q) : ∀ x ∈ said, IsQuiet x.question := by
  cases h with
  | quiet hquiet => exact absurd hquiet hq
  | create _ hfirst => exact hfirst
  | rotate _ _ _ _ hfirst => exact hfirst

/-- How a request may end: a refresh succeeds only if it exchanged a token. -/
def MayEnd : Request → Talk → Except Error Tokens → Prop
  | .refresh _, said, .ok _ => ∃ r id, ⟨.sessions (.call (.rotate r)), .ok id⟩ ∈ said
  | _, _, _ => True

/-! ## Contracts, part by part -/

section Contract

variable {s : Setup} {request : Request} {said : Talk} {α : Type}
  {mayEnd : Talk → Except Error α → Prop}

/-- A part that asks nothing but quiet questions may come anywhere. -/
theorem keeps_quiet {p : UseCase α} (hp : Asks IsQuiet p)
    (hend : ∀ more r, (∀ x ∈ more, IsQuiet x.question) → mayEnd (said ++ more) r) :
    Keeps (MayAsk s request) mayEnd p said :=
  Keeps.of_asks hp (fun _ _ h => .quiet h) hend

theorem quiet_checkStatus (ttls : Authorization.CacheTtls) (user : UserId) :
    Asks IsQuiet (Authorization.checkStatus ttls user) :=
  Authorization.asks_checkStatus
    (Authorization.asks_userFacts trivial trivial fun _ _ => trivial)

/-- The id of a new refresh token was asked for. -/
theorem keeps_issueRefresh (user : UserId) {mayEnd : Talk → Except Error Codec.Issued → Prop}
    (hend : ∀ more r, (∀ x ∈ more, IsQuiet x.question) →
      (∀ issued, r = .ok issued → ⟨.newId, issued.claims.jti⟩ ∈ more) → mayEnd (said ++ more) r) :
    Keeps (MayAsk s request) mayEnd (issueRefresh s user) said := by
  refine (keeps_bind _ _).2 (keeps_newId.2 ⟨.quiet trivial, fun jti => ?_⟩)
  refine (keeps_bind _ _).2 (keeps_now.2 ⟨.quiet trivial, fun now => ?_⟩)
  refine (keeps_lift _).2 ?_
  rw [List.append_assoc]
  refine hend _ _ (by simp [IsQuiet]) fun issued hissued => ?_
  have hjti : jti = issued.claims.jti :=
    congrArg Claims.jti (Codec.issueRefresh_eq_ok_iff.1 hissued).2.2
  simp [hjti]

/-- A refresh goes on only if it was told that its token is in use. -/
theorem keeps_hasJti (jti : String) {mayEnd : Talk → Except Error Bool → Prop}
    (hend : ∀ more r, (∀ x ∈ more, IsQuiet x.question) →
      (r = .ok true → ⟨.sessions (.call (.hasJti jti)), .ok true⟩ ∈ more) →
        mayEnd (said ++ more) r) :
    Keeps (MayAsk s request) mayEnd (Sessions.hasJti jti) said := by
  rw [Sessions.hasJti]
  split
  · rw [keeps_pure, ← List.append_nil said]
    exact hend [] _ (by simp) (by simp)
  · refine (keeps_call (c := .hasJti jti)).2 ⟨.quiet trivial, fun r => ?_⟩
    refine hend [⟨.sessions (.call (.hasJti jti)), r⟩] r ?_ ?_
    · exact List.forall_mem_singleton.2 trivial
    · rintro rfl
      exact List.mem_singleton_self _

theorem lifetimes_isValid {ttl : Nat} {now expiresAt : Timestamp} {t : Ttls × Timestamp}
    (h : Sessions.lifetimes ttl now expiresAt = .ok t) : t.1.isValid := by
  obtain ⟨-, -, hvalid, -⟩ := Sessions.lifetimes_eq_ok_iff.1 h
  exact hvalid

/-- A session is opened under an id that was asked for. -/
theorem keeps_openSession {mayAsk : Talk → Question → Prop} {ttl : Nat} {o : Sessions.Opening}
    {mayEnd : Talk → Except Error String → Prop} (hnow : ∀ said, mayAsk said .now)
    (hid : ∀ said, mayAsk said .newId)
    (hcreate : ∀ more (session : Session) ttls,
      (∀ x ∈ more, x.question = .now ∨ x.question = .newId) → ⟨.newId, session.id⟩ ∈ more →
        session.userId = o.userId → session.currentJti = o.jti →
          mayAsk (said ++ more) (.sessions (.call (.create session ttls))))
    (hend : ∀ more r, mayEnd (said ++ more) r) :
    Keeps mayAsk mayEnd (Sessions.openSession ttl o) said := by
  have hstop : ∀ r, mayEnd said r := fun r => List.append_nil said ▸ hend [] r
  rw [Sessions.openSession]
  split
  · exact keeps_throw_bind.2 (hstop _)
  refine (keeps_bind _ _).2 (keeps_now.2 ⟨hnow _, fun now => ?_⟩)
  refine (keeps_bind _ _).2 ((keeps_lift _).2 ?_)
  cases Sessions.lifetimes ttl now o.jtiExpiresAt with
  | error e => exact hend _ _
  | ok t =>
    refine (keeps_bind _ _).2 (keeps_newId.2 ⟨hid _, fun id => ?_⟩)
    refine (keeps_bind _ _).2 ((keeps_call (c := .create _ _)).2 ⟨?_, fun r => ?_⟩)
    · rw [List.append_assoc]
      exact hcreate _ _ _ (by simp) (by simp) rfl rfl
    · simp only [List.append_assoc]
      cases r with
      | error e => exact hend _ _
      | ok => exact (keeps_pure _).2 (hend _ _)

/-- A token is exchanged for one whose id was asked for. -/
theorem keeps_renew {input : Refresh} {claims : Claims} (ttl : Nat) (r : Sessions.Renewal)
    {mayEnd : Talk → Except Error String → Prop}
    (hclaims : s.codec.verify input.refreshToken = .ok claims) (hjti : claims.jti = r.oldJti)
    (hused : ⟨.sessions (.call (.hasJti r.oldJti)), .ok true⟩ ∈ said)
    (hnew : ⟨.newId, r.newJti⟩ ∈ said) (hfirst : ∀ x ∈ said, IsQuiet x.question)
    (hend : ∀ more result, (∀ id, result = .ok id →
        ∃ rotation, ⟨.sessions (.call (.rotate rotation)), .ok id⟩ ∈ said ++ more) →
      mayEnd (said ++ more) result) :
    Keeps (MayAsk s (.refresh input)) mayEnd (Sessions.renew ttl r) said := by
  have hstop : ∀ e, mayEnd said (.error e) := fun e => by
    rw [← List.append_nil said]
    exact hend [] _ nofun
  rw [Sessions.renew]
  split
  · exact keeps_throw_bind.2 (hstop _)
  refine (keeps_bind _ _).2 (keeps_now.2 ⟨.quiet trivial, fun now => ?_⟩)
  refine (keeps_bind _ _).2 ((keeps_lift _).2 ?_)
  cases hlifetimes : Sessions.lifetimes ttl now r.jtiExpiresAt with
  | error e => exact hend _ _ nofun
  | ok t =>
    have hvalid := lifetimes_isValid hlifetimes
    refine (keeps_call (c := .rotate _)).2
      ⟨.rotate hclaims hjti ?_ ?_ ?_ hvalid, fun result => ?_⟩
    · simp [hused]
    · simp [hnew]
    · simpa [or_imp, forall_and, IsQuiet] using hfirst
    · rw [List.append_assoc]
      refine hend _ _ ?_
      rintro id rfl
      exact ⟨_, List.mem_append_right _ (List.mem_append_right _ (List.mem_singleton_self _))⟩

theorem keeps_login (input : Login) :
    Keeps (MayAsk s (.login input)) (MayEnd (.login input)) (login s input) [] := by
  simp only [login]
  split
  · exact keeps_throw_bind.2 trivial
  refine (keeps_bind _ _).2 (keeps_quiet (asks_verifyCredentials trivial) fun more r hmore => ?_)
  cases r with
  | error e => trivial
  | ok user =>
    refine (keeps_bind _ _).2 ((keeps_lift _).2 ?_)
    cases checkUsable user with
    | error e => trivial
    | ok =>
      refine (keeps_bind _ _).2 (keeps_issueRefresh _ fun more' r hmore' hissued => ?_)
      cases r with
      | error e => trivial
      | ok issued =>
        refine (keeps_bind _ _).2 (keeps_openSession (fun _ => .quiet trivial)
          (fun _ => .quiet trivial) (fun opening session ttls hopening _ _ hjti => ?_)
          fun more'' r => ?_)
        · refine .create (hjti ▸ ?_) ?_
          · exact List.mem_append_left _ (List.mem_append_right _ (hissued issued rfl))
          · have hquiet : ∀ x ∈ opening, IsQuiet x.question := by
              intro x hx
              rcases hopening x hx with h | h <;> rw [h] <;> trivial
            simpa [or_imp, forall_and] using ⟨hmore, hmore', hquiet⟩
        · cases r with
          | error e => trivial
          | ok id => exact keeps_quiet (asks_completePair s trivial trivial) fun _ _ _ => trivial

theorem keeps_refresh (input : Refresh) :
    Keeps (MayAsk s (.refresh input)) (MayEnd (.refresh input)) (refresh s input) [] := by
  simp only [refresh]
  refine (keeps_bind _ _).2 (keeps_now.2 ⟨.quiet trivial, fun now => ?_⟩)
  refine (keeps_bind _ _).2 ((keeps_lift _).2 ?_)
  cases hparse : s.codec.parse now input.refreshToken .refresh with
  | error e => trivial
  | ok claims =>
    have hclaims : s.codec.verify input.refreshToken = .ok claims :=
      (Codec.parse_eq_ok_iff.1 hparse).1
    refine (keeps_bind _ _).2 (keeps_hasJti _ fun more r hmore hused => ?_)
    rcases r with e | _ | _
    · trivial
    · simp only [Bool.not_false, if_true]
      exact keeps_throw_bind.2 trivial
    refine (keeps_bind _ _).2 (keeps_quiet (quiet_checkStatus _ _) fun more' r hmore' => ?_)
    cases r with
    | error e => trivial
    | ok facts =>
      refine (keeps_bind _ _).2 (keeps_issueRefresh _ fun more'' r hmore'' hissued => ?_)
      cases r with
      | error e => trivial
      | ok issued =>
        refine (keeps_bind _ _).2 (keeps_renew _ _ hclaims rfl ?_ ?_ ?_ fun _ r hr => ?_)
        · simp [hused rfl]
        · exact List.mem_append_right _ (hissued issued rfl)
        · simp only [List.forall_mem_append, List.nil_append, List.forall_mem_singleton]
          exact ⟨⟨⟨trivial, hmore⟩, hmore'⟩, hmore''⟩
        · cases r with
          | error e => trivial
          | ok id =>
            obtain ⟨rotation, hrotation⟩ := hr id rfl
            refine keeps_quiet (asks_completePair s trivial trivial) fun _ r _ => ?_
            cases r with
            | error e => trivial
            | ok tokens => exact ⟨rotation, id, List.mem_append_left _ hrotation⟩

/-- Every request keeps to what it may ask, and ends as it may. -/
theorem keeps_body (request : Request) :
    (request.body s).Keeps (MayAsk s request) (MayEnd request) [] := by
  cases request with
  | login input =>
    rw [Request.body, keeps_run]
    exact keeps_login input
  | refresh input =>
    rw [Request.body, keeps_run]
    exact keeps_refresh input

end Contract

end Auth
end SessionAuth
