import TypedSql.Execution.Application
import TypedSql.Proofs.SessionTriples
/-!
# Connections in use

What holds of a backend and of the connections that are in use, if every single call keeps it, holds
along every run of an application: a connection is opened before it is used, belongs to one
transaction or to one name until it is given up, and is given up once.

## Main definitions

- `Backend.Keeps`: a condition that every call on a backend keeps.
- `TransactionState.connections`, `Application.connectionsInUse`: who holds a connection.
- `Application.Owns`: the condition holds for the connections that an application holds.
- `Request.statement?`: the statement that is sent directly.
- `Application.SendKeeps`: what is sent directly keeps the condition.

## Main statements

- `Backend.Keeps.triple_execute`: executions keep the condition, within a transaction or outside.
- `Application.Owns.owns_act`: so does every action of an application.

## Design notes

The condition speaks of a list of connections, the order of which does not matter. Requests to begin
and to end transactions are always admitted, statements by their text. Renderings are admitted as
such. What is sent directly has a condition of its own, which looks at the call it makes.
-/

namespace TypedSql

open Session (Triple Unobserved)

variable {σ κ : Type}

section Lists

variable {α β : Type}

theorem perm_flatMap_of_getElem? {l : List α} {i : Nat} {a : α} (h : l[i]? = some a)
    (f : α → List β) : (l.flatMap f).Perm (f a ++ (l.eraseIdx i).flatMap f) := by
  obtain ⟨hi, rfl⟩ := List.getElem?_eq_some_iff.1 h
  exact (List.getElem_cons_eraseIdx_perm hi).symm.flatMap_right f

theorem perm_flatMap_set {l : List α} {i : Nat} {a : α} (h : l[i]? = some a) (b : α)
    (f : α → List β) : ((l.set i b).flatMap f).Perm (f b ++ (l.eraseIdx i).flatMap f) := by
  obtain ⟨hi, -⟩ := List.getElem?_eq_some_iff.1 h
  have hb : (l.set i b)[i]? = some b := List.getElem?_set_self hi
  simpa [List.eraseIdx_set_eq] using perm_flatMap_of_getElem? hb f

theorem filter_ne_eq_self [DecidableEq α] {l : List (α × β)} {key : α}
    (h : key ∉ l.map Prod.fst) : (l.filter fun entry => entry.1 ≠ key) = l := by
  rw [List.filter_eq_self]
  intro entry hentry
  have hne : entry.1 ≠ key := fun he => h (he ▸ List.mem_map_of_mem hentry)
  exact decide_eq_true hne

theorem notMem_of_lookup_eq_none [DecidableEq α] {l : List (α × β)} {key : α}
    (h : l.lookup key = none) : key ∉ l.map Prod.fst := by
  intro hmem
  obtain ⟨entry, hentry, rfl⟩ := List.mem_map.1 hmem
  exact bne_iff_ne.1 (List.lookup_eq_none_iff.1 h entry hentry) rfl

/-- An entry that is found stands apart from those with other keys. -/
theorem perm_of_lookup [DecidableEq α] {l : List (α × β)} {key : α} {b : β}
    (hnodup : (l.map Prod.fst).Nodup) (h : l.lookup key = some b) :
    l.Perm ((key, b) :: l.filter fun entry => entry.1 ≠ key) := by
  induction l with
  | nil => cases h
  | cons entry l ih =>
    obtain ⟨k, v⟩ := entry
    obtain ⟨hk, hl⟩ := List.nodup_cons.1 hnodup
    by_cases hkey : k = key
    · subst hkey
      obtain rfl : v = b := by simpa using h
      rw [List.filter_cons_of_neg (by simp), filter_ne_eq_self hk]
    · have h' : l.lookup key = some b := by
        rwa [List.lookup_cons, beq_false_of_ne (Ne.symm hkey)] at h
      rw [List.filter_cons_of_pos (by simpa using hkey)]
      exact ((ih hl h').cons (k, v)).trans (List.Perm.swap ..)

end Lists

/-- Whether a request may be sent, where statements are admitted by their text. -/
def Request.IsAdmitted (admits : String → Prop) : Request → Prop
  | .reader command => admits command.sql
  | .nonQuery command => admits command.sql
  | _ => True

/-- The statement of a request that is not to begin or to end a transaction. -/
def Request.statement? : Request → Option SqlCommand
  | .reader command => some command
  | .nonQuery command => some command
  | _ => none

/-- The statement that an action sends on a connection of its own, if it sends one. -/
def Action.statement? : Action → Option SqlCommand
  | .send _ request _ => request.statement?
  | _ => none

theorem Request.isAdmitted_of_statement?_eq_none {request : Request}
    (h : request.statement? = none) (admits : String → Prop) : request.IsAdmitted admits := by
  cases request with
  | reader command => cases h
  | nonQuery command => cases h
  | _ => trivial

/-- A condition on the connections in use and on the state of a backend that every call keeps, as
long as only statements that are admitted are sent. -/
structure Backend.Keeps (b : Backend σ κ) (admits : String → Prop) (I : List κ → σ → Prop) :
    Prop where
  perm : ∀ {ks ks' : List κ} {s : σ}, ks.Perm ks' → I ks s → I ks' s
  connect : ∀ {calling database ks s k}, I ks s →
    (b.connect calling database s).answer = .ok k →
      I (k :: ks) (b.connect calling database s).state
  refuse : ∀ {calling database ks s e}, I ks s →
    (b.connect calling database s).answer = .error e → I ks (b.connect calling database s).state
  send : ∀ {calling request k ks s}, request.IsAdmitted admits → I (k :: ks) s →
    I ((b.send calling request k s).answer.2 :: ks) (b.send calling request k s).state
  release : ∀ {k ks s}, I (k :: ks) s → I ks (b.release k s).state

/-- The connection of the transaction, if it has one. -/
def TransactionState.connections : TransactionState κ → List κ
  | .bound _ h => [h.connection]
  | _ => []

/-- The connection of a transaction that may be missing. -/
def connectionsOf (t? : Option (Transaction κ)) : List κ := t?.elim [] (·.state.connections)

namespace Backend.Keeps

variable {b : Backend σ κ} {admits : String → Prop} {I : List κ → σ → Prop}
variable (hkeeps : b.Keeps admits I) (calling : Calling) (ks : List κ)

include hkeeps

section Requests

theorem triple_connect (db : Database) :
    Triple (fun s : Session σ => I ks s.backend) (Session.connect b calling db) fun r s =>
      (∃ e, r = .error e ∧ I ks s.backend) ∨ ∃ h, r = .ok h ∧ I (h.connection :: ks) s.backend := by
  refine Session.triple_connect ?_ ?_
  · intro s e hs hanswer
    exact .inl ⟨e, rfl, hkeeps.refuse hs hanswer⟩
  · intro s connection hs hanswer
    exact .inr ⟨_, rfl, hkeeps.connect hs hanswer⟩

theorem triple_send {request : Request} (hrequest : request.IsAdmitted admits) (h : Handle κ) :
    Triple (fun s : Session σ => I (h.connection :: ks) s.backend)
      (Session.send b calling request h) fun r s => I (r.2.connection :: ks) s.backend :=
  Session.triple_send fun _ hs => hkeeps.send hrequest hs

theorem triple_release (h : Handle κ) :
    Triple (fun s : Session σ => I (h.connection :: ks) s.backend) (Session.release b h) fun _ s =>
      I ks s.backend :=
  Session.triple_release fun _ hs => hkeeps.release hs

omit hkeeps in
theorem triple_log (e : LogEvent) :
    Triple (fun s : Session σ => I ks s.backend) (Session.log e) fun _ s => I ks s.backend :=
  Session.triple_log (Session.unobserved_backend (I ks)) e

theorem triple_sendAlone {request : Request} (hrequest : request.IsAdmitted admits)
    (db : Database) :
    Triple (fun s : Session σ => I ks s.backend) (Session.sendAlone b calling db request) fun _ s =>
      I ks s.backend := by
  refine (hkeeps.triple_connect calling ks db).bind fun r => .of_or
    (.of_exists fun e => .of_fact ?_) (.of_exists fun h => .of_fact ?_)
  · rintro rfl
    exact .pure fun s hs => hs
  · rintro rfl
    refine (hkeeps.triple_send calling ks hrequest h).bind fun r => ?_
    exact (hkeeps.triple_release ks r.2).bind fun _ => .pure fun s hs => hs

end Requests

section Transactions

variable (t : Transaction κ)

theorem triple_start (db : Database) :
    Triple (fun s : Session σ => I ks s.backend) (t.start b calling db) fun r s =>
      (∃ e, r = .error e ∧ I ks s.backend) ∨ ∃ h, r = .ok h ∧ I (h.connection :: ks) s.backend := by
  refine (hkeeps.triple_connect calling ks db).bind fun r => .of_or
    (.of_exists fun e => .of_fact ?_) (.of_exists fun h => .of_fact ?_)
  · rintro rfl
    exact .pure fun s hs => .inl ⟨e, rfl, hs⟩
  rintro rfl
  have hbegin : (Request.begin t.isolation).IsAdmitted admits := trivial
  refine (hkeeps.triple_send calling ks hbegin h).bind ?_
  rintro ⟨answer, h'⟩
  cases answer with
  | error e =>
    exact (hkeeps.triple_release ks h').bind fun _ => .pure fun s hs => .inl ⟨e, rfl, hs⟩
  | ok answer =>
    exact (triple_log (h'.connection :: ks) _).bind fun _ => .pure fun s hs => .inr ⟨h', rfl, hs⟩

theorem triple_sendWithin {request : Request} (hrequest : request.IsAdmitted admits)
    (db : Database) :
    Triple (fun s : Session σ => I (t.state.connections ++ ks) s.backend)
      (t.send b calling db request) fun r s => I (r.2.state.connections ++ ks) s.backend := by
  obtain ⟨isolation, state⟩ := t
  cases state with
  | completed => exact .pure fun s hs => hs
  | bound bound h =>
    cases hsame : bound.sameAs db with
    | false =>
      simp only [Transaction.send, hsame]
      exact .pure fun s hs => hs
    | true =>
      simp only [Transaction.send, hsame]
      exact (hkeeps.triple_send calling ks hrequest h).bind fun r => .pure fun s hs => hs
  | unbound =>
    refine (hkeeps.triple_start calling ks ⟨isolation, .unbound⟩ db).bind fun r => .of_or
      (.of_exists fun e => .of_fact ?_) (.of_exists fun h => .of_fact ?_)
    · rintro rfl
      exact .pure fun s hs => hs
    · rintro rfl
      exact (hkeeps.triple_send calling ks hrequest h).bind fun r => .pure fun s hs => hs

theorem triple_finish (ending : Ending) :
    Triple (fun s : Session σ => I (t.state.connections ++ ks) s.backend)
      (t.finish b calling ending) fun r s => I (r.2.state.connections ++ ks) s.backend := by
  obtain ⟨isolation, state⟩ := t
  cases state with
  | completed => exact .pure fun s hs => hs
  | unbound => exact .pure fun s hs => hs
  | bound bound h =>
    have hending : ending.request.IsAdmitted admits := by cases ending <;> trivial
    refine (hkeeps.triple_send calling ks hending h).bind ?_
    rintro ⟨answer, h'⟩
    cases answer with
    | error e => exact (hkeeps.triple_release ks h').bind fun _ => .pure fun s hs => hs
    | ok answer =>
      exact (triple_log (h'.connection :: ks) _).bind fun _ =>
        (hkeeps.triple_release ks h').bind fun _ => .pure fun s hs => hs

theorem triple_discard :
    Triple (fun s : Session σ => I (t.state.connections ++ ks) s.backend) (t.discard b) fun _ s =>
      I ks s.backend := by
  obtain ⟨isolation, state⟩ := t
  cases state with
  | bound bound h =>
    exact (triple_log (h.connection :: ks) _).bind fun _ => hkeeps.triple_release ks h
  | unbound => exact .pure fun s hs => hs
  | completed => exact .pure fun s hs => hs

end Transactions

section Executions

theorem triple_dispatch {request : Request} (hrequest : request.IsAdmitted admits) (db : Database)
    (t? : Option (Transaction κ)) :
    Triple (fun s : Session σ => I (connectionsOf t? ++ ks) s.backend)
      (Executable.dispatch b calling db request t?) fun r s =>
        r.2.isSome = t?.isSome ∧ I (connectionsOf r.2 ++ ks) s.backend := by
  cases t? with
  | none =>
    exact (hkeeps.triple_sendAlone calling ks hrequest db).bind fun _ => .pure fun _ hs => ⟨rfl, hs⟩
  | some t =>
    exact (hkeeps.triple_sendWithin calling ks t hrequest db).bind fun _ =>
      .pure fun _ hs => ⟨rfl, hs⟩

end Executions

end Backend.Keeps

section Renderings

/-- Every rendering of a statement is admitted. -/
def AdmitsRenderings (admits : String → Prop) : Prop :=
  ∀ (s : Statement) (d : Dialect) (mode : ParameterMode), admits (s.compile d mode).sql

variable {built : Built} {q : Executable}

theorem Executable.IsSound.compiled (h : q.IsSound built) (key : CompileKey) :
    (q.compiled key).IsSound built := by
  obtain ⟨rfl, hcache⟩ := h
  exact ⟨rfl, (hcache.getOrCompile key).2⟩

/-- A command has the text of a rendering. -/
theorem Executable.IsSound.sql_of_command (h : q.IsSound built) {db : Database}
    {defaultMode : ParameterMode} {options : ExecuteOptions} {slots? : Option (List Value)}
    {command : SqlCommand} (hcommand : q.command db defaultMode options slots? = .ok command) :
    command.sql = (built.statement.compile db.dialect (modeOf defaultMode options slots?)).sql := by
  obtain ⟨rfl, hcache⟩ := h
  have hrendering := (hcache.getOrCompile ⟨db.dialect, modeOf defaultMode options slots?⟩).1
  simp only [Executable.command, hrendering] at hcommand
  cases hparameters : (q.built.statement.compile db.dialect
      (modeOf defaultMode options slots?)).parameters (slots?.getD []) with
  | error e => simp [hparameters, Except.map] at hcommand
  | ok parameters =>
    simp only [hparameters, Except.map] at hcommand
    cases hcommand
    rfl

theorem Built.isAdmitted_request {admits : String → Prop} {command : SqlCommand}
    (h : admits command.sql) : (built.request command).IsAdmitted admits := by
  cases built <;> exact h

variable {b : Backend σ κ} {admits : String → Prop} {I : List κ → σ → Prop}

/-- An execution keeps the condition and leaves a sound executable. -/
theorem Backend.Keeps.triple_execute (hkeeps : b.Keeps admits I)
    (hrenderings : AdmitsRenderings admits) (hq : q.IsSound built) (ks : List κ)
    (calling : Calling) (db : Database) (defaultMode : ParameterMode) (options : ExecuteOptions)
    (slots? : Option (List Value)) (t? : Option (Transaction κ)) :
    Triple (fun s : Session σ => I (connectionsOf t? ++ ks) s.backend)
      (q.execute b calling db defaultMode options slots? t?) fun r s =>
        r.2.2.IsSound built ∧ r.2.1.isSome = t?.isSome ∧
          I (connectionsOf r.2.1 ++ ks) s.backend := by
  let R (r : Except ExecError Outcome × Option (Transaction κ)) (s : σ) : Prop :=
    r.2.isSome = t?.isSome ∧ I (connectionsOf r.2 ++ ks) s
  refine (Executable.triple_execute (Session.unobserved_backend _)
    (fun r => Session.unobserved_backend (R r)) ?_ ?_).weaken (fun _ hs => hs) ?_
  · intro e s _ hs
    exact ⟨rfl, hs⟩
  · intro command hcommand
    have hadmits : admits command.sql := by
      rw [hq.sql_of_command hcommand]
      exact hrenderings ..
    exact hkeeps.triple_dispatch calling ks (Built.isAdmitted_request hadmits) db t?
  · rintro r s ⟨hexecutable, hs⟩
    exact ⟨hexecutable ▸ hq.compiled _, hs⟩

end Renderings

section Applications

/-- The connections that an application holds, under names of their own or for transactions. -/
def Application.connectionsInUse (app : Application σ κ) : List κ :=
  app.connections.map (·.2.connection) ++ app.transactions.flatMap connectionsOf

/-- The condition holds for the connections that an application holds. -/
structure Application.Owns (I : List κ → σ → Prop) (app : Application σ κ) : Prop where
  invariant : I app.connectionsInUse app.session.backend
  keys_nodup : (app.connections.map Prod.fst).Nodup
  sound : ∀ q ∈ app.statements, ∃ built, q.IsSound built

/-- No connection is used yet, and no statement was rendered. -/
structure Application.IsFresh (app : Application σ κ) : Prop where
  connections : app.connections = []
  transactions : ∀ t? ∈ app.transactions, connectionsOf t? = []
  statements : ∀ q ∈ app.statements, ∃ built, q = { built }

theorem Application.IsFresh.owns {app : Application σ κ} (h : app.IsFresh)
    {I : List κ → σ → Prop} (hI : I [] app.session.backend) : app.Owns I where
  invariant := by
    have hnone : app.connectionsInUse = [] := by
      rw [connectionsInUse, h.connections, List.map_nil, List.nil_append, List.flatMap_eq_nil_iff]
      exact h.transactions
    rwa [hnone]
  keys_nodup := by simp [h.connections]
  sound q hq := by
    obtain ⟨built, rfl⟩ := h.statements q hq
    exact ⟨built, rfl, CompiledCache.Sound.empty _⟩

theorem Application.run_eq {α : Type} (app : Application σ κ) (f : SessionM σ α) :
    app.run f = ((f.run app.session).1, { app with session := (f.run app.session).2 }) := rfl

/-- Whether an action keeps the condition if it sends a request on a connection of its own. -/
def Application.SendKeeps (app : Application σ κ) (b : Backend σ κ) (I : List κ → σ → Prop) :
    Action → Prop
  | .send i request calling => ∀ h ks, app.connection? i = some h →
      I (h.connection :: ks) app.session.backend →
        I ((b.send calling request h.connection app.session.backend).answer.2 :: ks)
          (b.send calling request h.connection app.session.backend).state
  | _ => True

namespace Application

variable {app : Application σ κ} {i : Nat}

/-- The connection of a transaction stands apart from all others. -/
theorem perm_of_transaction? {t : Transaction κ} (h : app.transaction? i = some t) :
    ∃ ks, (app.connectionsInUse).Perm (t.state.connections ++ ks) ∧
      ∀ t? : Option (Transaction κ),
        ((app.putTransaction i t?).connectionsInUse).Perm (connectionsOf t? ++ ks) := by
  have hentry : app.transactions[i]? = some (some t) := by
    simpa [transaction?, Option.join_eq_some_iff] using h
  refine ⟨app.connections.map (·.2.connection) ++
    (app.transactions.eraseIdx i).flatMap connectionsOf, ?_, fun t? => ?_⟩
  · exact ((perm_flatMap_of_getElem? hentry connectionsOf).append_left _).trans
      (List.perm_append_comm_assoc ..)
  · exact ((perm_flatMap_set hentry t? connectionsOf).append_left _).trans
      (List.perm_append_comm_assoc ..)

theorem perm_putConnection (i : Nat) (h? : Option (Handle κ)) :
    ((app.putConnection i h?).connectionsInUse).Perm ((h?.map (·.connection)).toList ++
      ((app.connections.filter fun entry => entry.1 ≠ i).map (·.2.connection) ++
        app.transactions.flatMap connectionsOf)) := by
  rw [connectionsInUse, putConnection, List.map_append, ← List.append_assoc]
  refine List.Perm.append_right _ ?_
  cases h? with
  | none => simp
  | some h => exact List.perm_append_comm

/-- So does the connection with a name. -/
theorem perm_of_connection? (hnodup : (app.connections.map Prod.fst).Nodup) {h : Handle κ}
    (hh : app.connection? i = some h) :
    ∃ ks, (app.connectionsInUse).Perm (h.connection :: ks) ∧
      ∀ h? : Option (Handle κ),
        ((app.putConnection i h?).connectionsInUse).Perm ((h?.map (·.connection)).toList ++ ks) :=
  ⟨_, ((perm_of_lookup hnodup hh).map (·.2.connection)).append_right _, perm_putConnection i⟩

theorem mem_connectionsInUse_of_connection? {h : Handle κ} (hh : app.connection? i = some h) :
    h.connection ∈ app.connectionsInUse := by
  obtain ⟨earlier, later, hentries, -⟩ := List.lookup_eq_some_iff.1 hh
  simp [connectionsInUse, hentries]

/-- A connection under a new name is one more. -/
theorem perm_of_connection?_eq_none (hh : app.connection? i = none) (h : Handle κ) :
    ((app.putConnection i (some h)).connectionsInUse).Perm
      (h.connection :: app.connectionsInUse) := by
  refine (perm_putConnection i (some h)).trans ?_
  rw [filter_ne_eq_self (notMem_of_lookup_eq_none hh)]
  rfl

theorem keys_nodup_putConnection (hnodup : (app.connections.map Prod.fst).Nodup) (i : Nat)
    (h? : Option (Handle κ)) :
    ((app.putConnection i h?).connections.map Prod.fst).Nodup := by
  have hfilter : ((app.connections.filter fun entry => entry.1 ≠ i).map Prod.fst).Nodup :=
    hnodup.sublist (List.filter_sublist.map Prod.fst)
  cases h? with
  | none => simpa [putConnection] using hfilter
  | some h =>
    rw [putConnection, List.map_append, List.nodup_append]
    refine ⟨hfilter, by simp, ?_⟩
    intro key hkey other hother
    obtain ⟨entry, hentry, rfl⟩ := List.mem_map.1 hkey
    obtain rfl : other = i := by simpa using hother
    simpa using (List.mem_filter.1 hentry).2

/-- A request changes the connection that it is sent on, and what lies behind it. -/
theorem send_of_connection? {h : Handle κ} (hh : app.connection? i = some h) (b : Backend σ κ)
    (request : Request) (calling : Calling) :
    let r := b.send calling request h.connection app.session.backend
    ∃ s : Session σ, s.backend = r.state ∧ (app.send b i request calling).2 =
      ({ app with session := s } : Application σ κ).putConnection i
        (some { h with connection := r.answer.2 }) := by
  intro r
  refine ⟨app.session.after r h.database (.sent h.number request r.answer.1.isOk), rfl, ?_⟩
  have hrun : (Session.send b calling request h).run app.session =
      ((r.answer.1, { h with connection := r.answer.2 }),
        app.session.after r h.database (.sent h.number request r.answer.1.isOk)) := rfl
  simp only [send, hh, run_eq, hrun]
  cases r.answer.1 <;> rfl

end Application

namespace Application.Owns

variable {b : Backend σ κ} {admits : String → Prop} {I : List κ → σ → Prop}
variable {app : Application σ κ} (happ : app.Owns I) (hkeeps : b.Keeps admits I) {i : Nat}

include happ hkeeps

theorem owns_execute (hrenderings : AdmitsRenderings admits) (statement database : Nat)
    (transaction? : Option Nat) (slots? : Option (List Value)) (options : ExecuteOptions)
    (calling : Calling) :
    (app.execute b statement database transaction? slots? options calling).2.Owns I := by
  unfold Application.execute
  split
  case h_2 => exact happ
  case h_1 q db t? hq hdb ht =>
    obtain ⟨built, hsound⟩ := happ.sound q (List.mem_of_getElem? hq)
    have hexecute {ks : List κ} (hks : I (connectionsOf t? ++ ks) app.session.backend) :=
      hkeeps.triple_execute hrenderings hsound ks calling db app.defaultMode options slots? t?
        app.session hks
    simp only [run_eq]
    generalize (q.execute b calling db app.defaultMode options slots? t?).run app.session = r
      at hexecute ⊢
    obtain ⟨⟨result, t'?, q'⟩, s⟩ := r
    let app' : Application σ κ :=
      { app with session := s, statements := app.statements.set statement q' }
    suffices howns : (transaction?.elim app' fun i => app'.putTransaction i t'?).Owns I by
      cases result <;> exact howns
    have hstatements (hsound' : q'.IsSound built) :
        ∀ q ∈ app.statements.set statement q', ∃ built, q.IsSound built := by
      intro other hother
      obtain hother | rfl := List.mem_or_eq_of_mem_set hother
      · exact happ.sound other hother
      · exact ⟨built, hsound'⟩
    cases transaction? with
    | none =>
      obtain rfl : none = t? := by simpa using ht
      obtain ⟨hsound', hnone, hs⟩ := hexecute happ.invariant
      obtain rfl : t'? = none := by simpa using hnone
      exact ⟨hs, happ.keys_nodup, hstatements hsound'⟩
    | some i =>
      obtain ⟨t, hfound, rfl⟩ : ∃ t, app.transaction? i = some t ∧ some t = t? := by
        simpa using ht
      obtain ⟨ks, hinUse, hput⟩ := app.perm_of_transaction? hfound
      obtain ⟨hsound', -, hs⟩ := hexecute (hkeeps.perm hinUse happ.invariant)
      exact ⟨hkeeps.perm (hput t'?).symm hs, happ.keys_nodup, hstatements hsound'⟩

theorem owns_finish {t : Transaction κ} (ht : app.transaction? i = some t) (ending : Ending)
    (calling : Calling) :
    (((app.run (t.finish b calling ending)).2).putTransaction i
      (some (app.run (t.finish b calling ending)).1.2)).Owns I := by
  obtain ⟨ks, hinUse, hput⟩ := app.perm_of_transaction? ht
  have hfinish := hkeeps.triple_finish calling ks t ending app.session
    (hkeeps.perm hinUse happ.invariant)
  exact ⟨hkeeps.perm (hput _).symm hfinish, happ.keys_nodup, happ.sound⟩

theorem owns_discard {t : Transaction κ} (ht : app.transaction? i = some t) :
    (((app.run (t.discard b)).2).putTransaction i none).Owns I := by
  obtain ⟨ks, hinUse, hput⟩ := app.perm_of_transaction? ht
  have hdiscard := hkeeps.triple_discard ks t app.session (hkeeps.perm hinUse happ.invariant)
  exact ⟨hkeeps.perm (hput none).symm hdiscard, happ.keys_nodup, happ.sound⟩

theorem owns_connect (i database : Nat) (calling : Calling) :
    (app.connect b i database calling).2.Owns I := by
  unfold Application.connect
  cases app.databases[database]? with
  | none => exact happ
  | some db =>
    have hconnect :=
      hkeeps.triple_connect calling app.connectionsInUse db app.session happ.invariant
    simp only [run_eq]
    generalize (Session.connect b calling db).run app.session = r at hconnect ⊢
    obtain ⟨result, s⟩ := r
    obtain ⟨e, hresult, hs⟩ | ⟨h, hresult, hs⟩ := hconnect
    · obtain rfl : result = .error e := hresult
      exact ⟨hs, happ.keys_nodup, happ.sound⟩
    obtain rfl : result = .ok h := hresult
    have hkeys := keys_nodup_putConnection happ.keys_nodup i (some h)
    cases hold : app.connection? i with
    | none =>
      have hput := app.perm_of_connection?_eq_none hold h
      have hold' : ({ app with session := s } : Application σ κ).connection? i = none := hold
      simp only [hold']
      exact ⟨hkeeps.perm hput.symm hs, hkeys, happ.sound⟩
    | some old =>
      obtain ⟨ks, hinUse, hput⟩ := app.perm_of_connection? happ.keys_nodup hold
      have hrelease := hkeeps.triple_release (h.connection :: ks) old s
        (hkeeps.perm ((hinUse.cons _).trans (List.Perm.swap ..)) hs)
      have hold' : ({ app with session := s } : Application σ κ).connection? i = some old := hold
      simp only [hold']
      exact ⟨hkeeps.perm (hput (some h)).symm hrelease, hkeys, happ.sound⟩

theorem owns_send {request : Request} {calling : Calling}
    (hsend : app.SendKeeps b I (.send i request calling)) :
    (app.send b i request calling).2.Owns I := by
  cases hh : app.connection? i with
  | none =>
    simp only [Application.send, hh]
    exact happ
  | some h =>
    obtain ⟨ks, hinUse, hput⟩ := app.perm_of_connection? happ.keys_nodup hh
    obtain ⟨s, hs, happ'⟩ := Application.send_of_connection? hh b request calling
    have hkept := hsend h ks hh (hkeeps.perm hinUse happ.invariant)
    rw [← hs] at hkept
    rw [happ']
    exact ⟨hkeeps.perm (hput _).symm hkept, keys_nodup_putConnection happ.keys_nodup i _,
      happ.sound⟩

theorem owns_release {h : Handle κ} (hh : app.connection? i = some h) :
    (((app.run (Session.release b h)).2).putConnection i none).Owns I := by
  obtain ⟨ks, hinUse, hput⟩ := app.perm_of_connection? happ.keys_nodup hh
  have hrelease := hkeeps.triple_release ks h app.session (hkeeps.perm hinUse happ.invariant)
  exact ⟨hkeeps.perm (hput none).symm hrelease, keys_nodup_putConnection happ.keys_nodup i none,
    happ.sound⟩

/-- Every action keeps the condition for the connections that are in use after it, if a request does
that is sent directly. -/
theorem owns_act (hrenderings : AdmitsRenderings admits) {action : Action}
    (haction : app.SendKeeps b I action) : (app.act b action).2.Owns I := by
  cases action with
  | setDefaultMode mode => exact ⟨happ.invariant, happ.keys_nodup, happ.sound⟩
  | execute statement database transaction? slots? options calling =>
    exact happ.owns_execute hkeeps hrenderings statement database transaction? slots? options
      calling
  | finish i ending calling =>
    cases ht : app.transaction? i with
    | none => simpa only [act, ht] using happ
    | some t => simpa only [act, ht] using happ.owns_finish hkeeps ht ending calling
  | discard i =>
    cases ht : app.transaction? i with
    | none => simpa only [act, ht] using happ
    | some t => simpa only [act, ht] using happ.owns_discard hkeeps ht
  | connect i database calling => exact happ.owns_connect hkeeps i database calling
  | send i request calling => exact happ.owns_send hkeeps haction
  | release i =>
    cases hh : app.connection? i with
    | none => simpa only [act, hh] using happ
    | some h => simpa only [act, hh] using happ.owns_release hkeeps hh

end Application.Owns

end Applications

end TypedSql
