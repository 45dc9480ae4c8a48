import Mathlib.Tactic.SplitIfs
import RuleLedger.Expr.Evaluation
import RuleLedger.Proofs.Expr.Leaves
import RuleLedger.Proofs.Expr.Lexemes

/-! Members behind a full stop and between brackets. Main statement: for a name both find the same
member or fail alike, whatever the object, but for the method of numbers, which brackets miss. -/
namespace RuleLedger.Expr

variable {n : Text} {c : Symbol}

/-! ### Names as keys -/

theorem isBlank_of_isNameRest (h : isNameRest c = true) : Text.isBlank c = false := by
  rw [Bool.eq_false_iff]
  intro hblank
  have hcode := code_of_isBlank hblank
  rw [isNameRest, Bool.or_eq_true] at h
  obtain hstart | hdigit := h
  · have := code_of_isNameStart hstart
    omega
  · cases c with
    | half s => cases hdigit
    | char c =>
      obtain ⟨hlow, hhigh⟩ := Bool.and_eq_true_iff.1 hdigit
      have hlow : 0x30 ≤ c.toNat := of_decide_eq_true hlow
      have hhigh : c.toNat ≤ 0x39 := of_decide_eq_true hhigh
      rw [Symbol.code] at hcode
      omega

/-- No name spells an integer: it is that of infinity or spells no number. -/
theorem numberOfText_of_isIdentifier (h : n.IsIdentifier) :
    Value.numberOfText n = Number.infinity ∨ Value.numberOfText n = Number.nan := by
  obtain ⟨c, cs, hn, hc, hcs⟩ := exists_start h
  have hblank : ∀ d ∈ n.toList, Text.isBlank d = false :=
    fun d hd => isBlank_of_isNameRest (isNameRest_iff.2 (h.symbols d hd))
  have hplus : c ≠ .char '+' := by
    rintro rfl
    exact absurd hc (by decide)
  have hminus : c ≠ .char '-' := by
    rintro rfl
    exact absurd hc (by decide)
  have hsign : Numeral.signLength (c :: cs) = 0 := by
    rw [Numeral.signLength, if_neg (by simp [hplus, hminus])]
  have hnumeral : Numeral.signedLength? (c :: cs) = none := by
    rw [Numeral.signedLength?, hsign, List.drop_zero, length?_of_isNameStart hc]
    rfl
  have hnegative : c :: cs ≠ ("-Infinity" : Text).toList := fun he =>
    hminus (List.cons.inj he).1
  rw [Value.numberOfText, trim_eq_self hblank, hn, hnumeral]
  rw [List.isEmpty_cons, if_neg Bool.false_ne_true, if_neg hnegative,
    if_neg (Option.some_ne_none _).symm]
  split_ifs with hword
  · exact .inl rfl
  · exact .inr rfl

theorem position?_of_isIdentifier (h : n.IsIdentifier) (length : Nat) :
    position? (.str n) length = none := by
  rw [position?, Value.toNumber]
  obtain hx | hx := numberOfText_of_isIdentifier h <;> rw [hx] <;> rfl

/-- A name between brackets leads to the member of that name, but for numbers. -/
theorem index_of_isIdentifier (h : n.IsIdentifier) (seed : Seed) {d : Datum}
    (hd : ∀ v, d ≠ .num v) : index seed d (.str n) = member seed d n := by
  cases d with
  | list i xs =>
    rw [index, position?_of_isIdentifier h]
    rfl
  | str s =>
    rw [index, position?_of_isIdentifier h]
    rfl
  | num v => exact absurd rfl (hd v)
  | _ => rfl

/-- A number has one method and nothing else. -/
theorem member_num (seed : Seed) (v : Number) (n : Text) :
    member seed (.num v) n =
      .ok (if n = "toFixed" then .method (.part seed []) (.num v) .toFixed else .null) := by
  rw [member, methodNamed, Method.ofNumber]
  by_cases hn : n = "toFixed"
  · subst hn
    rfl
  · rw [if_neg hn, List.find?_cons_of_neg]
    · rfl
    · rw [beq_iff_eq]
      exact Ne.symm hn

/-- Without a budget nothing is evaluated. -/
theorem eval_zero (env : Environment) (t : Tree) (seed : Seed) :
    eval env seed 0 t = .error (.evaluation .tooDeep) := by
  induction t generalizing seed with
  | literal v => rw [eval, if_pos rfl]
  | name n => rw [eval, if_pos rfl]
  | member t n ih => rw [eval, ih]
  | index t k ih => rw [eval, ih]
  | call f ts ih => rw [eval, ih]
  | unary op t ih => rw [eval, ih]
  | binary op l r ih => rw [eval, ih]
  | logical op l r ih => rw [eval, ih]
  | conditional t y n ih => rw [eval, ih]
  | array ts => rw [eval, if_pos rfl]

/-! ### Members of evaluated objects -/

/-- A name between brackets as an expression. -/
theorem eval_index_str {env : Environment} {object : Tree} {d : Datum} {budget : Nat} {seed : Seed}
    (h : eval env (seed.fork 0) (budget - 1) object = .ok d) (n : Text) :
    eval env seed budget (.index object (.literal (.str n))) = index seed d (.str n) := by
  have hbudget : budget - 1 ≠ 0 := by
    intro h0
    rw [h0, eval_zero] at h
    cases h
  rw [eval, h, eval, if_neg hbudget]
  rfl

/-- Brackets find the member that a full stop finds, or fail as it does. A number, though, has its
method behind a full stop only. -/
theorem brackets_agree (h : n.IsIdentifier) (env : Environment) (object : Tree) (budget : Nat)
    (seed : Seed) :
    let objectResult := eval env (seed.fork 0) (budget - 1) object
    let dot := eval env seed budget (.member object n)
    let brackets := eval env seed budget (.index object (.literal (.str n)))
    (n ≠ "toFixed" ∨ (∀ v, objectResult ≠ .ok (.num v)) → brackets = dot) ∧
      ∀ v, n = "toFixed" → objectResult = .ok (.num v) →
        dot = .ok (.method (.part seed []) (.num v) .toFixed) ∧ brackets = .ok .null := by
  dsimp only
  cases hobject : eval env (seed.fork 0) (budget - 1) object with
  | error f =>
    have hdot : eval env seed budget (.member object n) = .error f := by rw [eval, hobject]
    have hbrackets : eval env seed budget (.index object (.literal (.str n))) = .error f := by
      rw [eval, hobject]
    exact ⟨fun _ => hbrackets.trans hdot.symm, nofun⟩
  | ok d =>
    have hdot : eval env seed budget (.member object n) = member seed d n := by rw [eval, hobject]
    rw [hdot, eval_index_str hobject]
    refine ⟨fun hn => ?_, ?_⟩
    · cases d with
      | num v =>
        have hname : n ≠ "toFixed" := hn.resolve_right fun hv => hv v rfl
        rw [member_num, if_neg hname]
        rfl
      | _ => exact index_of_isIdentifier h seed nofun
    · rintro v rfl hv
      obtain rfl := Except.ok.inj hv
      exact ⟨member_num seed v "toFixed", rfl⟩

/-- The method of the number 5. -/
theorem brackets_agree_toFixed :
    ("toFixed" : Text).IsIdentifier ∧
    let env : Environment := ⟨.empty, none⟩
    let seed : Seed := ⟨[0]⟩
    eval env seed 2 (.member (.literal (.int 5)) "toFixed") =
        .ok (.method (.part seed []) (.int 5) .toFixed) ∧
      eval env seed 2 (.index (.literal (.int 5)) (.literal (.str "toFixed"))) = .ok .null := by
  have h : ("toFixed" : Text).IsIdentifier :=
    ⟨by decide, ⟨_, rfl, by decide⟩, by decide⟩
  exact ⟨h, (brackets_agree h ⟨.empty, none⟩ (.literal (.int 5)) 2 ⟨[0]⟩).2 (.int 5) rfl rfl⟩

end RuleLedger.Expr
