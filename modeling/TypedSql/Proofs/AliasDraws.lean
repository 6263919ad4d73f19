import TypedSql.Proofs.Identifiers
import Mathlib.Data.List.Nodup
import Mathlib.Data.List.Perm.Subperm
import Mathlib.Logic.Function.Basic
/-!
# Aliases that threads draw

Threads draw aliases from one generator, for their own use or for the tables that they construct. A
draw is one step, which no other step interrupts; when its alias is handed out is up to the thread.
Whatever order the steps come in, each draw is handed out at most once, and draws differ for as long
as the generator does not return to where it began. No database takes an alias for anything but a
name.

## Main definitions

- `Hex.IsNumeral`: hexadecimal digits as a number is written with.
- `AliasRequest`, `AliasAnswer`: what a thread asks of a generator.
- `Drawing`: the generator and the threads; `Drawing.step`: one step of a thread.

## Main statements

- `Hex.value?_ofNat`, `Hex.isNumeral_ofNat`: numbers read back from their digits.
- `AliasGenerator.nodup_upcoming_iff`: aliases repeat after 2⁶⁴ of them and not before.
- `Dialect.needsQuoting_aliasOf`: an alias needs no delimiters.
- `AliasRequest.run_cases`: what a request does to the generator.
- `Drawing.IsSound.step`, `Drawing.IsSound.run`: what each step keeps, and each order of steps.
- `drawn_aliases_are_distinct`: aliases that are handed out differ.
-/

namespace TypedSql

namespace Hex

/-- The digits of which numbers are written. -/
def lowerDigits : List Char := "0123456789abcdef".toList

/-- Lower-case digits, at least one, and no zero in front of others. -/
structure IsNumeral (digits : List Char) : Prop where
  ne_nil : digits ≠ []
  mem_lowerDigits : ∀ c ∈ digits, c ∈ lowerDigits
  eq_zero : digits.head? = some '0' → digits = ['0']

theorem digitChar_mem_lowerDigits {m : Nat} (hm : m < 16) : m.digitChar ∈ lowerDigits := by
  interval_cases m <;> decide

theorem digitValue?_digitChar {m : Nat} (hm : m < 16) : digitValue? m.digitChar = some m := by
  interval_cases m <;> rfl

theorem ofNat_of_lt {m : Nat} (hm : m < 16) : ofNat m = [m.digitChar] :=
  Nat.toDigits_of_lt_base hm

/-- The digits of a number without its last one, and the last one. -/
theorem ofNat_digit {m k : Nat} (hm : 0 < m) (hk : k < 16) :
    ofNat (16 * m + k) = ofNat m ++ [k.digitChar] := by
  rw [← ofNat_of_lt hk]
  exact (Nat.toDigits_append_toDigits (by decide) hm hk).symm

/-- A number reads back from its digits. -/
theorem value?_ofNat (n : Nat) : value? (ofNat n) = some n := by
  induction n using Nat.base_induction 16 (by decide) with
  | single m hm =>
    rw [ofNat_of_lt hm]
    simp [value?, digitValue?_digitChar hm]
  | digit m k hk hm ih =>
    rw [ofNat_digit hm hk]
    unfold value? at ih ⊢
    rw [List.foldlM_append, ih]
    simp [digitValue?_digitChar hk]

theorem ofNat_injective : Function.Injective ofNat := by
  intro m n h
  have hvalue : some m = some n := by rw [← value?_ofNat m, h, value?_ofNat n]
  exact Option.some.inj hvalue

/-- Numbers are written without leading zeros. -/
theorem isNumeral_ofNat (n : Nat) : IsNumeral (ofNat n) := by
  induction n using Nat.base_induction 16 (by decide) with
  | single m hm =>
    rw [ofNat_of_lt hm]
    refine ⟨by simp, ?_, ?_⟩
    · simpa using digitChar_mem_lowerDigits hm
    · simp
  | digit m k hk hm ih =>
    rw [ofNat_digit hm hk]
    refine ⟨by simp, ?_, ?_⟩
    · intro c hc
      rw [List.mem_append, List.mem_singleton] at hc
      obtain hc | rfl := hc
      · exact ih.mem_lowerDigits c hc
      · exact digitChar_mem_lowerDigits hk
    · -- a numeral that begins with zero is zero, and the number without its last digit is not
      intro hhead
      rw [List.head?_append_of_ne_nil _ ih.ne_nil] at hhead
      have hzero : ofNat m = ofNat 0 := ih.eq_zero hhead
      rw [ofNat_injective hzero] at hm
      exact absurd hm (Nat.lt_irrefl 0)

end Hex

namespace AliasGenerator

/-- The aliases that are drawn next. -/
def upcoming (g : AliasGenerator) (count : Nat) : List String :=
  (List.range count).map fun k => aliasOf (g.next + UInt64.ofNat k)

theorem aliasOf_injective : Function.Injective aliasOf := by
  intro m n h
  have hdigits : Hex.ofNat m.toNat = Hex.ofNat n.toNat := by
    simpa [aliasOf, String.ofList_inj] using h
  exact UInt64.toNat_inj.1 (Hex.ofNat_injective hdigits)

variable (g : AliasGenerator)

theorem upcoming_succ (count : Nat) :
    g.upcoming (count + 1) = g.upcoming count ++ [aliasOf (g.next + UInt64.ofNat count)] := by
  simp [upcoming, List.range_succ]

/-- Aliases repeat when the number of the draw no longer fits into the generator. -/
theorem nodup_upcoming_iff (count : Nat) : (g.upcoming count).Nodup ↔ count ≤ 2 ^ 64 := by
  rw [upcoming, List.nodup_map_iff_inj_on List.nodup_range]
  simp only [List.mem_range]
  constructor
  · intro hinjective
    by_contra hcount
    have hwrap : UInt64.ofNat (2 ^ 64) = UInt64.ofNat 0 := rfl
    have hzero := hinjective 0 (by omega) (2 ^ 64) (by omega) (by rw [hwrap])
    omega
  · intro hcount j hj k hk halias
    have hsum : UInt64.ofNat j = UInt64.ofNat k :=
      (UInt64.add_right_inj g.next).1 (aliasOf_injective halias)
    have hmod : j % 2 ^ 64 = k % 2 ^ 64 := by
      rw [← UInt64.toNat_ofNat', ← UInt64.toNat_ofNat', hsum]
    omega

end AliasGenerator

namespace Dialect

/-- No reserved word begins with an underscore. -/
theorem head?_keyword_ne (d : Dialect) : ∀ k ∈ d.keywords, k.toList.head? ≠ some '_' := by
  cases d <;> decide +kernel

/-- An alias can be written as it is. -/
theorem needsQuoting_aliasOf (d : Dialect) (n : UInt64) :
    d.needsQuoting (AliasGenerator.aliasOf n) = false := by
  have hdigits := (Hex.isNumeral_ofNat n.toNat).mem_lowerDigits
  have hall : Hex.lowerDigits.all (fun c => c.isAlphanum && !c.isUpper) = true := by decide
  have hchars : ∀ c ∈ Hex.lowerDigits, c.isAlphanum ∧ c.isUpper = false := by simpa using hall
  have hplain : isPlainIdentifier (AliasGenerator.aliasOf n) := by
    simp only [isPlainIdentifier, AliasGenerator.aliasOf, String.toList_ofList]
    simpa using fun c hc => .inl (hchars c (hdigits c hc)).1
  have hlower : (AliasGenerator.aliasOf n).toList.any Char.isUpper = false := by
    simpa [AliasGenerator.aliasOf] using fun c hc => (hchars c (hdigits c hc)).2
  have hfree : d.isReserved (AliasGenerator.aliasOf n) = false := by
    by_contra hreserved
    rw [Bool.not_eq_false, isReserved_iff] at hreserved
    apply d.head?_keyword_ne _ hreserved
    simp [AliasGenerator.aliasOf]
  rw [needsQuoting, hlower, hplain, hfree]
  simp

end Dialect

section Requests

/-- What a thread asks of a generator: an alias, or a table. -/
inductive AliasRequest where
  | bare
  | table (schema? : Option String) (name : String)
  /-- The name was checked when the descriptor of the table was derived. -/
  | derived (schema? : Option String) (name : String) (enclosed : Bool)

/-- What a thread is given. -/
inductive AliasAnswer where
  | bare (name : String)
  | table (t : Table)
  | refused (e : QueryError)

/-- The alias in an answer. -/
def AliasAnswer.alias? : AliasAnswer → Option String
  | bare name => some name
  | table t => some t.aliasName
  | refused _ => none

namespace AliasRequest

/-- Whether a table is asked for that has no name. -/
def isUnnamed : AliasRequest → Bool
  | table _ name => name == ""
  | _ => false

/-- Answers a request. -/
def run (r : AliasRequest) (g : AliasGenerator) : AliasAnswer × AliasGenerator :=
  match r with
  | bare => (.bare g.draw.1, g.draw.2)
  | table schema? name =>
    match g.newTable schema? name with
    | (.ok t, g) => (.table t, g)
    | (.error e, g) => (.refused e, g)
  | derived schema? name enclosed =>
    let (t, g) := g.instantiate schema? name enclosed
    (.table t, g)

/-- A request is refused and draws nothing, or gets the alias that it draws. -/
theorem run_cases (r : AliasRequest) (g : AliasGenerator) :
    r.isUnnamed = true ∧ r.run g = (.refused .emptyTableName, g) ∨
      r.isUnnamed = false ∧ ∃ answer, r.run g = (answer, g.draw.2) ∧
        answer.alias? = some g.draw.1 := by
  cases r with
  | bare => exact .inr ⟨rfl, _, rfl, rfl⟩
  | table schema? name =>
    by_cases hname : name = ""
    · refine .inl ⟨by simp [isUnnamed, hname], ?_⟩
      simp [run, AliasGenerator.newTable, hname]
    · refine .inr ⟨by simp [isUnnamed, hname], .table (g.instantiate schema? name false).1, ?_, ?_⟩
      · simp [run, AliasGenerator.newTable, hname, AliasGenerator.instantiate]
      · exact congrArg some (g.aliasName_instantiate schema? name false)
  | derived schema? name enclosed =>
    exact .inr ⟨rfl, _, rfl, congrArg some (g.aliasName_instantiate schema? name enclosed)⟩

end AliasRequest

/-- A request of a thread, with its answer. -/
structure AliasCall where
  thread : Nat
  request : AliasRequest
  answer : AliasAnswer

/-- Tables without names are refused, and nothing else is. -/
def AliasCall.IsSound (c : AliasCall) : Prop :=
  if c.request.isUnnamed then c.answer = .refused .emptyTableName else c.answer.alias?.isSome

theorem AliasRequest.isSound_run (r : AliasRequest) (g : AliasGenerator) (thread : Nat) :
    AliasCall.IsSound ⟨thread, r, (r.run g).1⟩ := by
  obtain ⟨hunnamed, hrun⟩ | ⟨hnamed, answer, hrun, halias⟩ := r.run_cases g
  · simp [AliasCall.IsSound, hunnamed, hrun]
  · simp [AliasCall.IsSound, hnamed, hrun, halias]

end Requests

section Threads

/-- A generator, and the threads that draw from it. -/
structure Drawing where
  generator : AliasGenerator
  /-- What each thread has still to ask for. -/
  requests : Nat → List AliasRequest
  /-- The call that a thread has not returned from yet. -/
  pending : Nat → Option AliasCall := fun _ => none
  /-- The aliases in the order in which they were drawn. -/
  drawn : List String := []
  returned : List AliasCall := []

namespace Drawing

/-- The aliases that were handed out. -/
def aliases (w : Drawing) : List String := w.returned.filterMap (·.answer.alias?)

/-- The alias that a thread has drawn and not handed out yet. -/
def held (w : Drawing) (thread : Nat) : Option String :=
  (w.pending thread).bind (·.answer.alias?)

/-- The calls of a thread in their order, the one that it has not returned from last. -/
def calls (w : Drawing) (thread : Nat) : List AliasCall :=
  w.returned.filter (·.thread == thread) ++ (w.pending thread).toList

/-- A thread asks for something. -/
def ask (w : Drawing) (thread : Nat) (r : AliasRequest) (rest : List AliasRequest) : Drawing :=
  let (answer, generator) := r.run w.generator
  { w with
    generator
    requests := Function.update w.requests thread rest
    pending := Function.update w.pending thread (some ⟨thread, r, answer⟩)
    drawn := w.drawn ++ answer.alias?.toList }

/-- A thread returns from a call. -/
def giveBack (w : Drawing) (thread : Nat) (c : AliasCall) : Drawing :=
  { w with
    pending := Function.update w.pending thread none
    returned := w.returned ++ [c] }

/-- One step of a thread. A thread that is done does nothing. -/
def step (w : Drawing) (thread : Nat) : Drawing :=
  match w.pending thread with
  | some c => w.giveBack thread c
  | none =>
    match w.requests thread with
    | r :: rest => w.ask thread r rest
    | [] => w

/-- A request for a table without a name leaves the generator as it is. -/
theorem step_unnamed {w : Drawing} {thread : Nat} {schema? : Option String}
    {rest : List AliasRequest} (hidle : w.pending thread = none)
    (hnext : w.requests thread = .table schema? "" :: rest) :
    w.step thread =
      { w with
        requests := Function.update w.requests thread rest
        pending := Function.update w.pending thread
          (some ⟨thread, .table schema? "", .refused .emptyTableName⟩) } := by
  simp [step, hidle, hnext, ask, AliasRequest.run, AliasGenerator.newTable, AliasAnswer.alias?]

/-- Steps of threads, in whatever order they come. -/
def run (w : Drawing) (schedule : List Nat) : Drawing :=
  schedule.foldl step w

variable {w : Drawing} {thread : Nat}

theorem held_giveBack (w : Drawing) (thread : Nat) (c : AliasCall) :
    (w.giveBack thread c).held = Function.update w.held thread none := by
  funext t
  by_cases ht : t = thread
  · simp [held, giveBack, ht]
  · simp [held, giveBack, ht]

theorem held_ask (w : Drawing) (thread : Nat) (r : AliasRequest) (rest : List AliasRequest) :
    (w.ask thread r rest).held =
      Function.update w.held thread (r.run w.generator).1.alias? := by
  funext t
  by_cases ht : t = thread
  · simp [held, ask, ht]
  · simp [held, ask, ht]

/-- A call stays with its thread when the thread returns from it. -/
theorem calls_giveBack {c : AliasCall} (hpending : w.pending thread = some c)
    (hthread : c.thread = thread) : (w.giveBack thread c).calls = w.calls := by
  funext t
  by_cases ht : t = thread
  · simp [calls, giveBack, ht, hthread, hpending]
  · have hother : c.thread ≠ t := by rw [hthread]; exact fun heq => ht heq.symm
    simp [calls, giveBack, ht, hother]

theorem calls_ask (hidle : w.pending thread = none) (r : AliasRequest)
    (rest : List AliasRequest) :
    (w.ask thread r rest).calls = Function.update w.calls thread
      (w.calls thread ++ [⟨thread, r, (r.run w.generator).1⟩]) := by
  funext t
  by_cases ht : t = thread
  · simp [calls, ask, ht, hidle]
  · simp [calls, ask, ht]

theorem filterMap_cons_eq {α β : Type} (f : α → Option β) (x : α) (xs : List α) :
    (x :: xs).filterMap f = (f x).toList ++ xs.filterMap f := by
  cases hx : f x with
  | none => simp [hx]
  | some y => simp [hx]

/-- What is left in a list of different threads if one of them is looked at alone. -/
theorem filterMap_update_perm (held : Nat → Option String) {ts : List Nat} (hts : ts.Nodup)
    (thread : Nat) (a? : Option String) :
    (ts.filterMap (Function.update held thread a?)).Perm
      ((if thread ∈ ts then a?.toList else []) ++ (ts.erase thread).filterMap held) := by
  have hothers : (ts.erase thread).filterMap (Function.update held thread a?) =
      (ts.erase thread).filterMap held := by
    refine List.filterMap_congr fun t ht => ?_
    have hne : t ≠ thread := by
      rintro rfl
      exact hts.not_mem_erase ht
    rw [Function.update_of_ne hne]
  by_cases hmem : thread ∈ ts
  · rw [if_pos hmem, ← hothers]
    refine ((List.perm_cons_erase hmem).filterMap _).trans ?_
    cases a? with
    | none => simp
    | some a => simp
  · rw [if_neg hmem, ← hothers, List.erase_of_not_mem hmem]
    exact .refl _

/-- What holds of a drawing from a generator: the draws are the generator's next aliases, and each
of them is handed out once at most, and not while a thread still holds it. Each thread asks for what
it wants in turn. -/
structure IsSound (g : AliasGenerator) (requests : Nat → List AliasRequest) (w : Drawing) :
    Prop where
  generator_eq : w.generator = { g with next := g.next + UInt64.ofNat w.drawn.length }
  drawn_eq : w.drawn = g.upcoming w.drawn.length
  subperm : ∀ ts : List Nat, ts.Nodup → (w.aliases ++ ts.filterMap w.held).Subperm w.drawn
  requests_eq : ∀ thread, (w.calls thread).map (·.request) ++ w.requests thread = requests thread
  pending_isSound : ∀ thread c, w.pending thread = some c → c.thread = thread ∧ c.IsSound
  returned_isSound : ∀ c ∈ w.returned, c.IsSound

namespace IsSound

variable {g : AliasGenerator} {requests : Nat → List AliasRequest}

theorem start (g : AliasGenerator) (requests : Nat → List AliasRequest) :
    ({ generator := g, requests } : Drawing).IsSound g requests := by
  refine ⟨?_, ?_, ?_, ?_, ?_, ?_⟩
  · simp
  · simp [AliasGenerator.upcoming]
  · intro ts hts
    simp [aliases, held]
  · simp [calls]
  · simp
  · simp

theorem giveBack (h : w.IsSound g requests) {c : AliasCall}
    (hpending : w.pending thread = some c) : (w.giveBack thread c).IsSound g requests := by
  obtain ⟨hthread, hsound⟩ := h.pending_isSound thread c hpending
  have hheld : w.held thread = c.answer.alias? := by simp [held, hpending]
  have haliases : (w.giveBack thread c).aliases = w.aliases ++ c.answer.alias?.toList := by
    rw [aliases, Drawing.giveBack, List.filterMap_append, filterMap_cons_eq, List.filterMap_nil,
      List.append_nil, aliases]
  refine ⟨h.generator_eq, h.drawn_eq, ?_, ?_, ?_, ?_⟩
  · -- the thread held what it hands out now
    intro ts hts
    have hall := h.subperm (thread :: ts.erase thread)
      (List.nodup_cons.2 ⟨hts.not_mem_erase, hts.erase thread⟩)
    have hperm := filterMap_update_perm w.held hts thread none
    rw [Option.toList_none, ite_self, List.nil_append] at hperm
    rw [filterMap_cons_eq, hheld, ← List.append_assoc] at hall
    rw [haliases, held_giveBack]
    exact (hperm.append_left _).subperm.trans hall
  · rw [calls_giveBack hpending hthread]
    exact h.requests_eq
  · intro t c' hc'
    by_cases ht : t = thread
    · simp [Drawing.giveBack, ht] at hc'
    · simp only [Drawing.giveBack, Function.update_of_ne ht] at hc'
      exact h.pending_isSound t c' hc'
  · intro c' hc'
    obtain hc' | rfl := List.mem_append.1 hc' |>.imp_right List.mem_singleton.1
    · exact h.returned_isSound c' hc'
    · exact hsound

/-- The next draw. -/
theorem draw_eq (h : w.IsSound g requests) : w.generator.draw =
    (AliasGenerator.aliasOf (g.next + UInt64.ofNat w.drawn.length),
      { g with next := g.next + UInt64.ofNat (w.drawn.length + 1) }) := by
  rw [h.generator_eq, AliasGenerator.draw, UInt64.add_assoc, UInt64.ofNat_add]
  rfl

/-- What a thread draws, no thread held before. -/
theorem subperm_ask (h : w.IsSound g requests) (thread : Nat) (r : AliasRequest)
    (rest : List AliasRequest) {ts : List Nat} (hts : ts.Nodup) :
    ((w.ask thread r rest).aliases ++ ts.filterMap (w.ask thread r rest).held).Subperm
      (w.ask thread r rest).drawn := by
  let a? := (r.run w.generator).1.alias?
  have hothers := h.subperm (ts.erase thread) (hts.erase thread)
  have hperm := filterMap_update_perm w.held hts thread a?
  have hgiven : (if thread ∈ ts then a?.toList else []).Subperm a?.toList := by
    by_cases hmem : thread ∈ ts
    · rw [if_pos hmem]
    · rw [if_neg hmem]
      exact List.nil_subperm
  rw [held_ask]
  refine (hperm.append_left w.aliases).subperm.trans ?_
  refine (List.perm_append_comm.append_left w.aliases).subperm.trans ?_
  rw [← List.append_assoc]
  exact hothers.append hgiven

theorem ask (h : w.IsSound g requests) (hidle : w.pending thread = none) {r : AliasRequest}
    {rest : List AliasRequest} (hnext : w.requests thread = r :: rest) :
    (w.ask thread r rest).IsSound g requests := by
  have hrequests : ∀ t, ((w.ask thread r rest).calls t).map (·.request) ++
      (w.ask thread r rest).requests t = requests t := by
    intro t
    rw [calls_ask hidle, ← h.requests_eq t]
    by_cases ht : t = thread
    · simp [Drawing.ask, ht, hnext]
    · simp [Drawing.ask, ht]
  have hpending : ∀ t c, (w.ask thread r rest).pending t = some c → c.thread = t ∧ c.IsSound := by
    intro t c hc
    by_cases ht : t = thread
    · obtain rfl : ⟨thread, r, (r.run w.generator).1⟩ = c := by simpa [Drawing.ask, ht] using hc
      exact ⟨ht.symm, r.isSound_run w.generator thread⟩
    · simp only [Drawing.ask, Function.update_of_ne ht] at hc
      exact h.pending_isSound t c hc
  refine ⟨?_, ?_, fun ts hts => h.subperm_ask thread r rest hts, hrequests, hpending,
    h.returned_isSound⟩
  · obtain ⟨-, hrun⟩ | ⟨-, answer, hrun, halias⟩ := r.run_cases w.generator
    · simpa [Drawing.ask, hrun, AliasAnswer.alias?] using h.generator_eq
    · simp [Drawing.ask, hrun, halias, h.draw_eq]
  · obtain ⟨-, hrun⟩ | ⟨-, answer, hrun, halias⟩ := r.run_cases w.generator
    · simpa [Drawing.ask, hrun, AliasAnswer.alias?] using h.drawn_eq
    · have hdrawn : (w.ask thread r rest).drawn =
          w.drawn ++ [AliasGenerator.aliasOf (g.next + UInt64.ofNat w.drawn.length)] := by
        simp [Drawing.ask, hrun, halias, h.draw_eq]
      rw [hdrawn, List.length_append, List.length_singleton, g.upcoming_succ, ← h.drawn_eq]

theorem step (h : w.IsSound g requests) (thread : Nat) : (w.step thread).IsSound g requests := by
  unfold Drawing.step
  cases hpending : w.pending thread with
  | some c => exact h.giveBack hpending
  | none =>
    cases hnext : w.requests thread with
    | cons r rest => exact h.ask hpending hnext
    | nil => exact h

theorem run (h : w.IsSound g requests) (schedule : List Nat) :
    (w.run schedule).IsSound g requests := by
  induction schedule generalizing w with
  | nil => exact h
  | cons thread schedule ih => exact ih (h.step thread)

theorem subperm_aliases (h : w.IsSound g requests) : w.aliases.Subperm w.drawn := by
  simpa using h.subperm [] List.nodup_nil

/-- What was handed out is an alias of some number. -/
theorem exists_aliasOf (h : w.IsSound g requests) {a : String} (ha : a ∈ w.aliases) :
    ∃ n, a = AliasGenerator.aliasOf n := by
  have hdrawn := h.subperm_aliases.subset ha
  rw [h.drawn_eq] at hdrawn
  obtain ⟨k, -, rfl⟩ := List.mem_map.1 hdrawn
  exact ⟨_, rfl⟩

end IsSound

end Drawing

end Threads

/-- Whatever threads ask of a generator and whatever order their steps come in, what they are handed
out are the draws of the generator, each at most once. Each thread is answered in turn. A request is
refused if and only if it is for a table without a name, and then nothing is drawn. So no two
aliases are the same that were handed out, for up to 2⁶⁴ draws, after which the generator repeats
itself. An alias is an underscore with a numeral. No dialect demands delimiters for it, and it is
read back without. -/
theorem drawn_aliases_are_distinct (g : AliasGenerator) (requests : Nat → List AliasRequest)
    (schedule : List Nat) :
    let w := ({ generator := g, requests } : Drawing).run schedule
    (w.drawn.length ≤ 2 ^ 64 → w.aliases.Nodup) ∧
    (w.drawn.Nodup ↔ w.drawn.length ≤ 2 ^ 64) ∧
    w.aliases.Subperm w.drawn ∧
    w.generator = { g with next := g.next + UInt64.ofNat w.drawn.length } ∧
    (∀ thread schema? rest, w.pending thread = none →
      w.requests thread = .table schema? "" :: rest →
        (w.step thread).generator = w.generator ∧ (w.step thread).drawn = w.drawn) ∧
    (∀ thread, (w.calls thread).map (·.request) ++ w.requests thread = requests thread) ∧
    (∀ c ∈ w.returned, c.IsSound) ∧
    ∀ a ∈ w.aliases, (∃ digits, a.toList = '_' :: digits ∧ Hex.IsNumeral digits) ∧
      ∀ d : Dialect, d.needsQuoting a = false ∧ ∀ isLetter after, d.FollowsName isLetter after →
        d.readName? isLetter (a.toList ++ after) = some (a.toList, after) := by
  intro w
  have hsound : w.IsSound g requests := (Drawing.IsSound.start g requests).run schedule
  have hnodup : w.drawn.Nodup ↔ w.drawn.length ≤ 2 ^ 64 := by
    rw [← g.nodup_upcoming_iff, ← hsound.drawn_eq]
  refine ⟨?_, hnodup, hsound.subperm_aliases, hsound.generator_eq, ?_, hsound.requests_eq,
    hsound.returned_isSound, ?_⟩
  · intro hlength
    obtain ⟨drawn, hperm, hsublist⟩ := hsound.subperm_aliases
    exact hperm.nodup_iff.1 ((hnodup.2 hlength).sublist hsublist)
  · intro thread schema? rest hidle hnext
    rw [Drawing.step_unnamed hidle hnext]
    exact ⟨rfl, rfl⟩
  · intro a ha
    obtain ⟨n, rfl⟩ := hsound.exists_aliasOf ha
    refine ⟨⟨Hex.ofNat n.toNat, ?_, Hex.isNumeral_ofNat n.toNat⟩, fun d => ?_⟩
    · rw [AliasGenerator.aliasOf, String.toList_ofList]
    · have hbare := d.needsQuoting_aliasOf n
      exact ⟨hbare, fun _ _ hafter => d.readName?_of_needsQuoting hbare hafter⟩

/-- Two threads with a generator at its last number, of which the first is refused a table. The
second returns from its draw before the first does. -/
theorem aliases_of_two_threads :
    let g : AliasGenerator := ⟨0, 0xffffffffffffffff⟩
    let requests : Nat → List AliasRequest
      | 0 => [.table none "", .bare]
      | 1 => [.derived none "users" false]
      | _ => []
    let start : Drawing := { generator := g, requests }
    let w := start.run [0, 0, 0, 1, 1, 0]
    start.pending 0 = none ∧ start.requests 0 = [.table none "", .bare] ∧
    (start.step 0).generator = g ∧ (start.step 0).drawn = [] ∧
    w.drawn.length ≤ 2 ^ 64 ∧ w.aliases = ["_0", "_ffffffffffffffff"] ∧ w.aliases.Nodup ∧
    Dialect.postgres.FollowsName (fun _ => true) ['.'] ∧
    Dialect.postgres.readName? (fun _ => true) ("_ffffffffffffffff".toList ++ ['.']) =
      some ("_ffffffffffffffff".toList, ['.']) := by
  intro g requests start w
  obtain ⟨-, -, -, -, hrefused, -⟩ := drawn_aliases_are_distinct g requests []
  obtain ⟨hgenerator, hdrawn⟩ := hrefused 0 none [.bare] rfl rfl
  obtain ⟨hdistinct, -, -, -, -, -, -, hbare⟩ :=
    drawn_aliases_are_distinct g requests [0, 0, 0, 1, 1, 0]
  have hlength : w.drawn.length ≤ 2 ^ 64 := by decide +kernel
  have haliases : w.aliases = ["_0", "_ffffffffffffffff"] := by decide +kernel
  have hdot := Dialect.postgres.followsName_dot (fun _ => true) []
  have hlast : "_ffffffffffffffff" ∈ w.aliases := by simp [haliases]
  exact ⟨rfl, rfl, hgenerator, hdrawn, hlength, haliases, hdistinct hlength, hdot,
    ((hbare _ hlast).2 .postgres).2 _ _ hdot⟩

end TypedSql
