import RecordStore.Proofs.Calls.Objections
import RecordStore.Proofs.Construction
import RecordStore.Proofs.RecordAddresses

/-! # The token stays out of sight

A backend with another token sends the same requests with that token. Nothing else tells the two
apart: neither what they come to nor what they say of themselves. -/

namespace RecordStore

open Session (Call Answer Entry KeyRef Memory)

/-! ## The same with another token -/

def Credentials.withToken (c : Credentials) (token : String) : Credentials :=
  { c with accessToken := token }

def Settings.withToken (s : Settings) (token : String) : Settings :=
  { s with credentials := s.credentials.withToken token }

def Backend.withToken (b : Backend) (token : String) : Backend :=
  { b with credentials := b.credentials.withToken token }

def Request.withToken (r : Request) (token : String) : Request := { r with token := token }

def Exchange.withToken {α : Type} (token : String) : Exchange α → Exchange α
  | settled result => settled result
  | ask request conclude => ask (request.withToken token) conclude

def Session.Answer.withToken (token : String) : Answer → Answer
  | backend b => backend (b.withToken token)
  | answer => answer

def Session.Entry.withToken (token : String) (entry : Entry) : Entry :=
  ⟨entry.result.map (Answer.withToken token), entry.sent.map (·.withToken token)⟩

/-- The one transport delivers to requests with the token what the other delivers to the same
requests with their own, and the states that `Like` relates stay related. -/
structure Transport.Alike {σ σ' : Type} (token : String) (t : Transport σ) (t' : Transport σ')
    (Like : σ → σ' → Prop) : Prop where
  delivery : ∀ {state state'}, Like state state' → ∀ r : Request,
    (t'.send (r.withToken token) state').1 = (t.send r state).1
  next : ∀ {state state'}, Like state state' → ∀ r : Request,
    Like (t.send r state).2 (t'.send (r.withToken token) state').2

variable {α β σ σ' : Type} {token : String}

/-! ## Building a backend -/

theorem Credentials.migrate_withToken (c : Credentials) :
    (c.withToken token).migrate = c.migrate.map (·.withToken token) := by
  have hnamed : (c.withToken token).named? = c.named? := rfl
  rw [migrate_eq, migrate_eq, hnamed]
  cases c.named? <;> rfl

theorem Backend.ofSettings_withToken (s : Settings) :
    ofSettings (s.withToken token) = (ofSettings s).map (·.withToken token) := by
  have hresolve : (s.withToken token).resolve = s.resolve := rfl
  have hmigrate : (s.withToken token).credentials.migrate =
      s.credentials.migrate.map (·.withToken token) := s.credentials.migrate_withToken
  have hbase : parseBase (s.withToken token).baseUrl = parseBase s.baseUrl := rfl
  rw [ofSettings, ofSettings, hresolve, hmigrate, hbase]
  cases s.resolve with
  | error e => rfl
  | ok resource =>
    cases s.credentials.migrate with
    | error e => rfl
    | ok credentials => cases parseBase s.baseUrl <;> rfl

/-! ## Carrying out calls -/

namespace Exchange

theorem withToken_checked (check : Except StoreError α) (next : α → Exchange β) :
    (checked check next).withToken token = checked check fun a => (next a).withToken token := by
  cases check <;> rfl

theorem withToken_andThen (x : Exchange α) (f : α → Except StoreError β) :
    (x.andThen f).withToken token = (x.withToken token).andThen f := by
  cases x <;> rfl

end Exchange

namespace Backend

variable (b : Backend)

theorem get_withToken (key : Key) : (b.withToken token).get key = (b.get key).withToken token := by
  rw [get, get, Exchange.withToken_checked]
  rfl

theorem getPayload_withToken (key : Key) :
    (b.withToken token).getPayload key = (b.getPayload key).withToken token := by
  rw [getPayload, getPayload, get_withToken, Exchange.withToken_andThen]
  rfl

theorem listKeys_withToken : (b.withToken token).listKeys = b.listKeys.withToken token := rfl

theorem hasKey_withToken (key : Key) :
    (b.withToken token).hasKey key = (b.hasKey key).withToken token := rfl

theorem set_withToken (key : Key) (value : Json) (fields : Fields) :
    (b.withToken token).set key value fields = (b.set key value fields).withToken token := by
  rw [set, set, Exchange.withToken_checked]
  cases key.id? with
  | some id =>
    simp only [update, Exchange.withToken_andThen, Exchange.withToken_checked]
    rfl
  | none =>
    simp only [Exchange.withToken_andThen, Exchange.withToken_checked]
    rfl

theorem setWithOptions_withToken (key : Key) (payload : Payload) (options : CreateOptions) :
    (b.withToken token).setWithOptions key payload options =
      (b.setWithOptions key payload options).withToken token := by
  simp only [setWithOptions, Exchange.withToken_checked, set_withToken]

theorem removeKey_withToken (key : Key) :
    (b.withToken token).removeKey key = (b.removeKey key).withToken token := by
  simp only [removeKey, Exchange.withToken_checked]
  rfl

end Backend

namespace Session

variable {f : α → Answer} (hf : ∀ a, (f a).withToken token = f a)
include hf

theorem answered_withToken {x x' : Exchange α} (hx : x' = x.withToken token) :
    answered f x' =
      ((answered f x).withToken token).andThen fun answer => .ok (answer.withToken token) := by
  rw [hx, answered, answered, Exchange.withToken_andThen, Exchange.andThen_ok_andThen_ok]
  simp only [hf]

theorem settled_withToken (result : Except StoreError α) :
    settled f result =
      ((settled f result).withToken token).andThen fun answer => .ok (answer.withToken token) := by
  cases result with
  | error e => rfl
  | ok a => exact congrArg (fun answer => Exchange.settled (.ok answer)) (hf a).symm

end Session

/-- A backend with another token makes the same call with that token. -/
theorem Backend.perform_withToken (b : Backend) (call : Call Key) :
    call.perform (b.withToken token) =
      ((call.perform b).withToken token).andThen fun answer => .ok (answer.withToken token) := by
  have hdocument : ∀ v, (Answer.document v).withToken token = .document v := fun _ => rfl
  have hstored : ∀ outcome, (Answer.stored outcome).withToken token = .stored outcome :=
    fun _ => rfl
  have hkeys : ∀ keys, (Answer.keys keys).withToken token = .keys keys := fun _ => rfl
  have hflag : ∀ flag, (Answer.flag flag).withToken token = .flag flag := fun _ => rfl
  cases call with
  | info => rfl
  | config => rfl
  | get key => exact Session.answered_withToken hdocument (b.get_withToken key)
  | getPayload key => exact Session.answered_withToken hdocument (b.getPayload_withToken key)
  | urlForKey key => exact Session.settled_withToken (fun _ => rfl) (b.keyUrl key)
  | set key value fields =>
    exact Session.answered_withToken hstored (b.set_withToken key value fields)
  | setWithOptions key payload options =>
    exact Session.answered_withToken hstored (b.setWithOptions_withToken key payload options)
  | listKeys => exact Session.answered_withToken hkeys b.listKeys_withToken
  | hasKey key => exact Session.answered_withToken hflag (b.hasKey_withToken key)
  | removeKey key => exact Session.answered_withToken hflag (b.removeKey_withToken key)
  | validateFields fields => exact Session.settled_withToken (fun _ => rfl) (b.checkFields fields)
  | decodeListing document => exact Session.settled_withToken hkeys (b.decodeListing document)

/-! ## Sessions -/

section Runs

variable {t : Transport σ} {t' : Transport σ'} {Like : σ → σ' → Prop} {state : σ} {state' : σ'}

/-- What a call comes to over either transport. -/
theorem Transport.Alike.run_perform (h : t.Alike token t' Like) (hstate : Like state state')
    (b : Backend) (call : Call Key) :
    let report := (call.perform b).run t state
    let report' := (call.perform (b.withToken token)).run t' state'
    (⟨report'.result, report'.sent⟩ : Entry) = Entry.withToken token ⟨report.result, report.sent⟩ ∧
      Like report.state report'.state := by
  rw [b.perform_withToken]
  cases call.perform b with
  | settled result =>
    refine ⟨?_, hstate⟩
    cases result <;> rfl
  | ask request conclude =>
    refine ⟨?_, h.next hstate request⟩
    simp only [Exchange.withToken, Exchange.andThen, Exchange.run, h.delivery hstate]
    cases conclude (t.send request state).1 <;> rfl

theorem Session.Memory.after_withToken {κ : Type} (m : Memory) (call : Call κ)
    (result : Except StoreError Answer) :
    m.after call (result.map (Answer.withToken token)) = m.after call result := by
  cases result with
  | error e => rfl
  | ok answer => cases answer <;> rfl

theorem Session.run_withToken (h : t.Alike token t' Like) (hstate : Like state state') (b : Backend)
    (m : Memory) (calls : List (Call KeyRef)) :
    run (b.withToken token) t' m state' calls =
      (run b t m state calls).map (List.map (Entry.withToken token)) := by
  -- The states stay related and the memories the same before every call.
  induction calls generalizing m state state' with
  | nil => rfl
  | cons call rest ih =>
    rw [run, run]
    cases call.resolve m with
    | none => rfl
    | some resolved =>
      obtain ⟨hentry, hnext⟩ := h.run_perform hstate b resolved
      obtain ⟨hresult, hsent⟩ := Entry.mk.inj hentry
      simp only [Option.bind_eq_bind, Option.bind_some, hresult, hsent, Memory.after_withToken,
        ih hnext]
      cases run b t _ _ rest <;> rfl

end Runs

/-! ## What is seen of a backend -/

namespace Backend

/-- Two backends whose settings differ in the token alone are built or refused alike, say the same
of themselves, and come to the same in every session over transports that deliver alike: what is
sent differs in the token, and in nothing else. -/
theorem token_does_not_show (s : Settings) (token : String) :
    (s.withToken token).description = s.description ∧
    (s.withToken token).credentials.description = s.credentials.description ∧
    ofSettings (s.withToken token) = (ofSettings s).map (·.withToken token) ∧
    ∀ b, ofSettings s = .ok b →
      (b.withToken token).description = b.description ∧
      (b.withToken token).credentials.description = b.credentials.description ∧
      (b.withToken token).config.toMembers = b.config.toMembers ∧
      ∀ {σ σ' : Type} {t : Transport σ} {t' : Transport σ'} {Like : σ → σ' → Prop},
        t.Alike token t' Like → ∀ {state state'}, Like state state' → ∀ m calls,
          Session.run (b.withToken token) t' m state' calls =
            (Session.run b t m state calls).map (List.map (Entry.withToken token)) := by
  refine ⟨rfl, rfl, ofSettings_withToken s, fun b _ => ⟨rfl, rfl, rfl, ?_⟩⟩
  intro σ σ' t t' Like h state state' hstate m calls
  exact Session.run_withToken h hstate b m calls

theorem scripted_alike (token : String) :
    Transport.scripted.Alike token Transport.scripted Eq where
  delivery := by
    rintro state - rfl r
    cases state <;> rfl
  next := by
    rintro state - rfl r
    cases state <;> rfl

/-- What replays its replies cannot tell one token from another. -/
theorem sample_token_does_not_show :
    ofSettings (sampleSettings.withToken "token-2") = .ok (sample.withToken "token-2") ∧
    Session.run (sample.withToken "token-2") .scripted .empty [.error .transport]
        [.info, .get (.given (.addressed .checkpoint "7"))] =
      (Session.run sample .scripted .empty [.error .transport]
        [.info, .get (.given (.addressed .checkpoint "7"))]).map
          (List.map (Entry.withToken "token-2")) := by
  obtain ⟨-, -, hbuilt, hseen⟩ := token_does_not_show sampleSettings "token-2"
  obtain ⟨-, -, -, hrun⟩ := hseen sample ofSettings_sampleSettings
  rw [ofSettings_sampleSettings] at hbuilt
  exact ⟨hbuilt, hrun (scripted_alike "token-2") rfl .empty _⟩

end Backend

end RecordStore
