import Mathlib.Data.List.ReduceOption
import Vmodl.Proofs.Arguments

/-!
# Runs of a session

A session is asked to call methods and to log in, in any order and with any answers. Its token, and the
cookies that the transport gets, follow the logins that succeed. All else leaves both alone.
-/

namespace Vmodl

open Wire

def Sent.cookie? : Sent → Option String
  | .cookie token => some token
  | .call .. => none

namespace Transport

/-- The cookies that were handed over, the oldest first. -/
def cookies (t : Transport) : List String := t.log.filterMap Sent.cookie?

theorem lastCookie_eq (log : List Sent) : lastCookie log = (log.filterMap Sent.cookie?).getLast? := by
  induction log with
  | nil => rfl
  | cons sent rest ih =>
      cases sent with
      | call method parameters => rw [lastCookie, ih, List.filterMap_cons_none rfl]
      | cookie token =>
          have hcons : (Sent.cookie token :: rest).filterMap Sent.cookie? =
              token :: rest.filterMap Sent.cookie? := rfl
          rw [lastCookie, ih, hcons, List.getLast?_cons]
          cases (rest.filterMap Sent.cookie?).getLast? <;> rfl

end Transport

namespace Session

inductive Command where
  | exec (method : String) (parameters : Json)
  | login (userName password : String)
deriving Repr

inductive Response where
  | exec (outcome : Except Failure Reply)
  | login (outcome : Except Failure (Option String))

/-- The token of a login that succeeded, which may have brought none. -/
def Response.token? : Response → Option (Option String)
  | .login (.ok token) => some token
  | _ => none

def step (s : Session) : Command → Response × Session
  | .exec method parameters => (exec method parameters s).map .exec id
  | .login userName password => (login userName password s).map .login id

def after (s : Session) : List Command → Session
  | [] => s
  | c :: rest => after (s.step c).2 rest

def responses (s : Session) : List Command → List Response
  | [] => []
  | c :: rest => (s.step c).1 :: responses (s.step c).2 rest

/-- The tokens of the logins that succeeded, the oldest first. -/
def logins (rs : List Response) : List (Option String) := rs.filterMap Response.token?

/-- A new session over a transport that will give the answers. -/
def fresh (rootType : String) (debug : Bool) (registry : Registry) (answers : List Answer)
    (keepsCookies : Bool) : Session :=
  { rootType, debug, registry, transport := { pending := answers, keepsCookies } }

/-- A value that is the text, or an object that boxes it. -/
def HoldsText (j : Json) (text : String) : Prop :=
  j = .string text ∨ ∃ members, j = .object members ∧ members.lookup valueKey = some (.string text)

def managerTypeOf : Json → String
  | .object members => (discriminator? members).getD managerType
  | _ => managerType

/-- The content of a service names a session manager by a handle, bare or boxed. -/
def Names (content : Json) (manager : Reference) : Prop :=
  ∃ j, content.get? "sessionManager" = some j ∧ HoldsText j manager.handle ∧
    managerTypeOf j = manager.typeName

/-- The next answer is the content of a service that names the session manager. -/
def Offers (s : Session) (manager : Reference) : Prop :=
  ∃ content later, s.transport.pending = .reply content :: later ∧ Names content.result manager

theorem unwrap_eq_string_iff {j : Json} {text : String} :
    unwrap j = .string text ↔ HoldsText j text := by
  cases j with
  | object members =>
      cases hvalue : members.lookup valueKey <;> simp [unwrap, Json.get?, HoldsText, hvalue]
  | _ => simp [unwrap, Json.get?, HoldsText]

theorem sessionManager_eq_ok_iff {content : Json} {t : Target} :
    sessionManager content = .ok t ↔ ∃ manager, t = .managed manager ∧ Names content manager := by
  unfold sessionManager Names
  cases content.get? "sessionManager" with
  | none => simp
  | some j =>
      simp only [Option.some.injEq, exists_eq_left', ← unwrap_eq_string_iff]
      split
      · rename_i handle hhandle
        constructor
        · intro h
          cases h
          exact ⟨⟨managerTypeOf j, handle⟩, rfl, hhandle, rfl⟩
        · rintro ⟨⟨typeName, handle'⟩, rfl, hhandle', rfl⟩
          cases hhandle.symm.trans hhandle'
          rfl
      · rename_i hother
        constructor
        · intro h
          cases h
        · rintro ⟨manager, -, hhandle, -⟩
          exact absurd hhandle (hother _)

/-! ### One command -/

def contentCall (s : Session) : Sent :=
  .call "RetrieveServiceContent" (.object [("_this", .string s.rootType)])

def loginCall (manager : Reference) (userName password : String) : Sent :=
  .call "Login" (.object [("_this", manager.toJson), ("userName", .string userName),
    ("password", .string password)])

def asked (s : Session) : Session := s.afterCall contentMethod (Target.root s.rootType).parameters

def presented (s : Session) (manager : Reference) (userName password : String) : Session :=
  s.asked.afterCall loginMethod ((Target.managed manager).withMembers (credentials userName password))

/-- The ways that a login can go, with what it answers and the session it leaves. -/
inductive LoginCourse (s : Session) (userName password : String) :
    Except Failure (Option String) → Session → Prop
  | stopped {e : Failure} (hmanager : ∀ manager, ¬s.Offers manager) :
      LoginCourse s userName password (.error e) s.asked
  | refused {e : Failure} {manager : Reference} (hmanager : s.Offers manager) :
      LoginCourse s userName password (.error e) (s.presented manager userName password)
  | accepted {reply : Reply} {manager : Reference} (hmanager : s.Offers manager) :
      LoginCourse s userName password (.ok (tokenOf reply))
        ((s.presented manager userName password).accept (tokenOf reply))

/-- A call succeeds with the next answer if that is a reply. -/
theorem exec_eq_ok_iff {method : String} {parameters : Json} {s : Session} {r : Reply} :
    (exec method parameters s).1 = .ok r ↔ ∃ later, s.transport.pending = .reply r :: later := by
  unfold exec Transport.call
  cases s.transport.pending with
  | nil => simp
  | cons answer rest => cases answer <;> simp

theorem exec_content_snd (s : Session) :
    (exec contentMethod (Target.root s.rootType).parameters s).2 = s.asked := exec_snd ..

theorem exec_login_snd (s : Session) (manager : Reference) (userName password : String) :
    (exec loginMethod ((Target.managed manager).withMembers (credentials userName password)) s.asked).2 =
      s.presented manager userName password := exec_snd ..

theorem offers_iff {s : Session} {manager : Reference} :
    s.Offers manager ↔ ∃ content,
      (exec contentMethod (Target.root s.rootType).parameters s).1 = .ok content ∧
        sessionManager content.result = .ok (.managed manager) := by
  simp only [Offers, exec_eq_ok_iff, sessionManager_eq_ok_iff, Target.managed.injEq, exists_eq_left']
  constructor
  · rintro ⟨content, later, hpending, hnames⟩
    exact ⟨content, ⟨later, hpending⟩, hnames⟩
  · rintro ⟨content, ⟨later, hpending⟩, hnames⟩
    exact ⟨content, later, hpending, hnames⟩

theorem login_course (s : Session) (userName password : String) :
    LoginCourse s userName password (login userName password s).1 (login userName password s).2 := by
  unfold login
  -- Each way out leaves the session that the calls before it have made.
  rcases hcontent : exec contentMethod (Target.root s.rootType).parameters s with ⟨outcome, s'⟩
  obtain rfl : s' = s.asked := by rw [← exec_content_snd, hcontent]
  cases outcome with
  | error e =>
      refine .stopped fun manager hoffers => ?_
      obtain ⟨content, hok, -⟩ := offers_iff.mp hoffers
      rw [hcontent] at hok
      cases hok
  | ok content =>
      cases hmanager : sessionManager content.result with
      | error e =>
          simp only [hmanager]
          refine .stopped fun manager hoffers => ?_
          obtain ⟨content', hok, hmanager'⟩ := offers_iff.mp hoffers
          rw [hcontent] at hok
          cases hok
          rw [hmanager] at hmanager'
          cases hmanager'
      | ok target =>
          simp only [hmanager]
          obtain ⟨manager, rfl, -⟩ := sessionManager_eq_ok_iff.mp hmanager
          have hoffers : s.Offers manager := offers_iff.mpr ⟨content, by rw [hcontent], hmanager⟩
          rcases hreply : exec loginMethod
            ((Target.managed manager).withMembers (credentials userName password)) s.asked with ⟨outcome, s''⟩
          obtain rfl : s'' = s.presented manager userName password := by
            rw [← exec_login_snd, hreply]
          cases outcome with
          | error e => exact .refused hoffers
          | ok reply => exact .accepted hoffers

/-- What a command hands to the transport. Nothing that depends on a user goes out before the service
has named its session manager. -/
inductive Sends (s : Session) : Command → List Sent → Prop
  | exec (method : String) (parameters : Json) :
      Sends s (.exec method parameters) [.call method (sanitize parameters)]
  | stopped (userName password : String) (hmanager : ∀ manager, ¬s.Offers manager) :
      Sends s (.login userName password) [s.contentCall]
  | presented (userName password : String) {manager : Reference} (hmanager : s.Offers manager)
      (token : Option String) :
      Sends s (.login userName password)
        (s.contentCall :: loginCall manager userName password :: token.toList.map .cookie)

/-- A command that is no successful login changes neither the token nor the cookies. One that is sets
the token, and adds a cookie if it got one. -/
structure Course (s : Session) (c : Command) (response : Response) (s' : Session) : Prop where
  idle : response.token? = none → s'.token = s.token ∧ s'.transport.cookies = s.transport.cookies
  accepted : ∀ token, response.token? = some token →
    s'.token = token ∧ s'.transport.cookies = s.transport.cookies ++ token.toList
  sends : ∃ sent, s'.transport.log = s.transport.log ++ sent ∧ Sends s c sent

@[simp] theorem cookies_afterCall (s : Session) (method : String) (parameters : Json) :
    (s.afterCall method parameters).transport.cookies = s.transport.cookies := by
  simp [Transport.cookies, Sent.cookie?]

@[simp] theorem token_accept (s : Session) (token : Option String) : (s.accept token).token = token := by
  cases token <;> rfl

@[simp] theorem log_accept (s : Session) (token : Option String) :
    (s.accept token).transport.log = s.transport.log ++ token.toList.map .cookie := by
  cases token with
  | none => exact (List.append_nil _).symm
  | some t => rfl

@[simp] theorem cookies_accept (s : Session) (token : Option String) :
    (s.accept token).transport.cookies = s.transport.cookies ++ token.toList := by
  rw [Transport.cookies, log_accept, List.filterMap_append, Transport.cookies]
  cases token <;> rfl

theorem log_asked (s : Session) : s.asked.transport.log = s.transport.log ++ [s.contentCall] := rfl

theorem log_presented (s : Session) (manager : Reference) (userName password : String) :
    (s.presented manager userName password).transport.log =
      s.transport.log ++ [s.contentCall, loginCall manager userName password] := by
  rw [presented, log_afterCall, log_asked, List.append_assoc]
  rfl

theorem Course.of_exec (s : Session) (method : String) (parameters : Json) :
    Course s (.exec method parameters) (.exec (exec method parameters s).1) (exec method parameters s).2 where
  idle _ := by simp [exec_snd]
  accepted _ h := by cases h
  sends := ⟨_, by rw [exec_snd, log_afterCall], .exec method parameters⟩

theorem Course.of_login {s s' : Session} {userName password : String}
    {outcome : Except Failure (Option String)} (h : LoginCourse s userName password outcome s') :
    Course s (.login userName password) (.login outcome) s' := by
  cases h with
  | stopped hmanager =>
      exact {
        idle := fun _ => by simp [asked]
        accepted := fun _ h => by cases h
        sends := ⟨_, log_asked s, .stopped userName password hmanager⟩ }
  | @refused e manager hmanager =>
      exact {
        idle := fun _ => by simp [presented, asked]
        accepted := fun _ h => by cases h
        sends := ⟨_, log_presented s manager userName password,
          .presented userName password hmanager none⟩ }
  | @accepted reply manager hmanager =>
      exact {
        idle := fun h => by cases h
        accepted := fun token h => by
          cases h
          simp [presented, asked]
        sends := ⟨_, by rw [log_accept, log_presented, List.append_assoc]; rfl,
          .presented userName password hmanager (tokenOf reply)⟩ }

theorem step_course (s : Session) (c : Command) : Course s c (s.step c).1 (s.step c).2 := by
  cases c with
  | exec method parameters => exact Course.of_exec s method parameters
  | login userName password => exact Course.of_login (login_course s userName password)

/-! ### What a run keeps -/

/-- The token is that of the last login that succeeded, and the transport was handed the tokens that
logins brought, each of them once. -/
structure FollowsLogins (tokens : List (Option String)) (s : Session) : Prop where
  token : s.token = tokens.getLast?.join
  cookies : s.transport.cookies = tokens.reduceOption

theorem followsLogins_fresh (rootType : String) (debug : Bool) (registry : Registry)
    (answers : List Answer) (keepsCookies : Bool) :
    FollowsLogins [] (fresh rootType debug registry answers keepsCookies) := ⟨rfl, rfl⟩

theorem FollowsLogins.step {tokens : List (Option String)} {s : Session} (h : FollowsLogins tokens s)
    (c : Command) : FollowsLogins (tokens ++ (s.step c).1.token?.toList) (s.step c).2 := by
  have hcourse := step_course s c
  cases htoken : (s.step c).1.token? with
  | none =>
      obtain ⟨hkept, hcookies⟩ := hcourse.idle htoken
      rw [Option.toList_none, List.append_nil]
      exact ⟨hkept.trans h.token, hcookies.trans h.cookies⟩
  | some token =>
      obtain ⟨hset, hcookies⟩ := hcourse.accepted token htoken
      rw [Option.toList_some]
      refine ⟨?_, ?_⟩
      · rw [hset, List.getLast?_concat, Option.join_some]
      · rw [hcookies, h.cookies, List.reduceOption_append]
        cases token <;> rfl

theorem logins_cons (response : Response) (rs : List Response) :
    logins (response :: rs) = response.token?.toList ++ logins rs := by
  unfold logins
  cases htoken : response.token? with
  | none => rw [List.filterMap_cons_none htoken]; rfl
  | some token => rw [List.filterMap_cons_some htoken]; rfl

theorem FollowsLogins.after {tokens : List (Option String)} {s : Session} (h : FollowsLogins tokens s)
    (history : List Command) :
    FollowsLogins (tokens ++ logins (s.responses history)) (s.after history) := by
  induction history generalizing tokens s with
  | nil =>
      rw [responses, logins, List.filterMap_nil, List.append_nil]
      exact h
  | cons c rest ih =>
      rw [responses, logins_cons, ← List.append_assoc]
      exact ih (h.step c)

theorem FollowsLogins.lastCookie_eq {tokens : List (Option String)} {s : Session}
    (h : FollowsLogins tokens s) :
    Transport.lastCookie s.transport.log = tokens.reduceOption.getLast? := by
  rw [Transport.lastCookie_eq, ← h.cookies, Transport.cookies]

theorem FollowsLogins.token_eq_none {tokens : List (Option String)} {s : Session}
    (h : FollowsLogins tokens s) (hlast : tokens.getLast? = some none) : s.token = none := by
  rw [h.token, hlast, Option.join_some]

theorem FollowsLogins.token_eq {tokens : List (Option String)} {s : Session}
    (h : FollowsLogins tokens s) (hlast : tokens.getLast? ≠ some none) :
    s.token = Transport.lastCookie s.transport.log := by
  rw [h.token, h.lastCookie_eq]
  rcases List.eq_nil_or_concat tokens with rfl | ⟨earlier, token, rfl⟩
  · rfl
  · rw [List.concat_eq_append, List.getLast?_concat] at hlast ⊢
    cases token with
    | none => exact absurd rfl hlast
    | some token =>
        rw [List.reduceOption_append]
        exact List.getLast?_concat.symm

/-- Whatever the answers, the session follows its logins, and so it does after any further command. -/
theorem run_followsLogins (rootType : String) (debug : Bool) (registry : Registry)
    (answers : List Answer) (keepsCookies : Bool) (history : List Command) :
    let start := fresh rootType debug registry answers keepsCookies
    let s := start.after history
    FollowsLogins (logins (start.responses history)) s ∧
      ∀ c, Course s c (s.step c).1 (s.step c).2 := by
  intro start s
  have hstart : FollowsLogins [] start := followsLogins_fresh ..
  constructor
  · exact hstart.after history
  · intro c
    exact step_course s c

/-- The token that a session reports was handed over last. A login that succeeds without a token takes
the session's token away and leaves the transport with the cookie of an earlier login. -/
theorem token_eq_lastCookie (rootType : String) (debug : Bool) (registry : Registry)
    (answers : List Answer) (keepsCookies : Bool) (history : List Command) :
    let start := fresh rootType debug registry answers keepsCookies
    let s := start.after history
    let tokens := logins (start.responses history)
    (tokens.getLast? ≠ some none → s.token = Transport.lastCookie s.transport.log) ∧
      (tokens.getLast? = some none →
        s.token = none ∧ Transport.lastCookie s.transport.log = tokens.reduceOption.getLast?) ∧
      ∀ token, s.token = some token → Transport.lastCookie s.transport.log = some token := by
  intro start s tokens
  have h : FollowsLogins tokens s := (followsLogins_fresh ..).after history
  refine ⟨h.token_eq, ?_, ?_⟩
  · intro hlast
    exact ⟨h.token_eq_none hlast, h.lastCookie_eq⟩
  · intro token htoken
    have hlast : tokens.getLast? ≠ some none := by
      intro hlast
      rw [h.token_eq_none hlast] at htoken
      cases htoken
    rw [← h.token_eq hlast, htoken]

theorem not_token_eq_lastCookie_second_login :
    ¬∀ (rootType : String) (debug : Bool) (registry : Registry) (answers : List Answer)
      (keepsCookies : Bool) (history : List Command),
      let s := (fresh rootType debug registry answers keepsCookies).after history
      s.token = Transport.lastCookie s.transport.log := by
  intro h
  -- The reply to the second login brings no cookie.
  have heq := h "ServiceInstance" false .empty
    [.reply { result := .object [("sessionManager", .string "SessionManager")] },
      .reply { result := .object [], headers := [("set-cookie", "vmware_soap_session=abc")] },
      .reply { result := .object [("sessionManager", .string "SessionManager")] },
      .reply { result := .object [] }]
    true [.login "root" "pw", .login "root" "pw"]
  revert heq
  decide +kernel

end Session

end Vmodl
