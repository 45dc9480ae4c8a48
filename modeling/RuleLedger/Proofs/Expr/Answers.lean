import RuleLedger.Proofs.Expr.Faults

/-! What the evaluation of a tree comes to. Main statement: over a mapping of data, and with a clock
whose time can be told, every tree that a parser builds has a value, or its evaluation is at fault;
there is no other fault, however deep the evaluation may go. -/
namespace RuleLedger.Expr

variable {K : Clock} {fs : Fields Value} {generators : Option Generators} {t : Tree}
  {r : Except Fault Datum} {s place seed : Seed}

/-- The result of an expression whose tree has a datum or a fault: the datum on its own, unless it
is a callable. -/
def conclude (s : Seed) (r : Except Fault Datum) : Except Fault Datum :=
  match r with
  | .error f => .error (wrapNumeric f)
  | .ok d =>
    match d with
    | .group _ g _ => .error (.evaluation (.helperResult (Value.helperText (.group g))))
    | .helper _ h => .error (.evaluation (.helperResult (Value.helperText h)))
    | .method _ r m => .error (.evaluation (.helperResult (Value.methodText r.value m)))
    | d => .ok (d.copy s)

theorem evaluateTree_eq (E : Environment) (s : Seed) (t : Tree) :
    evaluateTree E s t = conclude s (eval E s depthBudget t) := rfl

/-- An operation on two values with a result that is no thing. -/
theorem evaluateTree_binary {E : Environment} {op : BinaryOp} {left right : Tree} {a b : Datum}
    {v : Value} (hleft : ∀ s, eval E s (depthBudget - 1) left = .ok a)
    (hright : ∀ s, eval E s (depthBudget - 1) right = .ok b) (h : binaryResult op a b = .ok v)
    (hv : v.isThing = false) (s : Seed) :
    evaluateTree E s (.binary op left right) = .ok (.plain v) := by
  rw [evaluateTree_eq, eval, hleft, hright]
  dsimp only
  rw [h]
  cases v with
  | list | map | helper | method => cases hv
  | _ => rfl

/-- A value that is no callable, or a fault of the evaluation. -/
inductive Answered : Except Fault Datum → Prop
  | value {d : Datum} : d.value.isCallable = false → Answered (.ok d)
  | fault (g : EvaluationFault) : Answered (.error (.evaluation g))

theorem Meets.answered {P : Datum → Prop} (h : Meets K P r) (hK : ∃ text, K.timestamp = .ok text)
    (s : Seed) : Answered (conclude s r) := by
  cases h with
  | fault hf =>
    cases hf with
    | evaluation g => exact .fault g
    | numeric g => exact .fault (.numeric g)
    | time htime =>
      obtain ⟨text, htext⟩ := hK
      rw [htext] at htime
      cases htime
  | @value d _ =>
    cases d with
    | group | helper | method => exact .fault _
    | list | map => exact .value (by rw [Datum.value_copy]; rfl)
    | _ => exact .value rfl

/-- Data are on the clock of the generators, or on any clock where there are none. -/
theorem exists_onClock (hfs : (Value.map fs).isData = true)
    (hclock : ∀ g ∈ generators, ∃ text, g.clock.timestamp = .ok text) (place : Seed) :
    ∃ K : Clock, (∃ text, K.timestamp = .ok text) ∧
      Environment.OnClock K ⟨.ofValue place (.map fs), generators⟩ := by
  obtain ⟨ms, hms, hdata⟩ := dataScope_ofValue hfs place generators
  have hrecord (K : Clock) : (Record.ofValue place (.map fs)).Clocked K :=
    ⟨ms, hms, fun m hm => Datum.clocked_of_isData (hdata m hm)⟩
  cases generators with
  | none =>
    obtain ⟨text, htext, -⟩ := exists_ok (fun _ => true)
      (by decide +kernel : (Clock.timestamp ⟨0⟩).toOption.any (fun _ => true) = true)
    exact ⟨⟨0⟩, ⟨text, htext⟩, hrecord _, nofun⟩
  | some g =>
    refine ⟨g.clock, hclock g rfl, hrecord _, fun g' hg => ?_⟩
    rw [Option.some.inj hg]

/-- Every tree that a parser builds has a value over every mapping of data, or its evaluation is at
fault, whether evaluation is bounded as it is or in any other way. -/
theorem evaluateTree_answers (hfs : (Value.map fs).isData = true)
    (hclock : ∀ g ∈ generators, ∃ text, g.clock.timestamp = .ok text) (ht : t.Parsed)
    (place seed : Seed) :
    Answered (evaluateTree ⟨.ofValue place (.map fs), generators⟩ seed t) ∧
      ∀ budget, Answered
        (conclude seed (eval ⟨.ofValue place (.map fs), generators⟩ seed budget t)) := by
  obtain ⟨K, hK, hE⟩ := exists_onClock hfs hclock place
  have hconclude (budget : Nat) :
      Answered (conclude seed (eval ⟨.ofValue place (.map fs), generators⟩ seed budget t)) :=
    (eval_meets hE ht.scalar seed budget).answered hK seed
  rw [evaluateTree_eq]
  exact ⟨hconclude depthBudget, hconclude⟩

/-- A sum with the time, which is asked for in the wrong way. -/
theorem evaluateTree_answers_now :
    ∃ t, parse "n + now(Math.max())" = .ok t ∧ Answered (evaluateTree
      ⟨.ofValue ⟨[1]⟩ (.map [("n", .float Binary64.nan)]), some ⟨⟨0⟩, ⟨[2]⟩⟩⟩ ⟨[0]⟩ t) := by
  obtain ⟨t, ht, -⟩ := exists_ok (fun _ => true)
    (x := parse "n + now(Math.max())") (by decide +kernel)
  obtain ⟨text, htext, -⟩ := exists_ok (fun _ => true)
    (by decide +kernel : (Clock.timestamp ⟨0⟩).toOption.any (fun _ => true) = true)
  refine ⟨t, ht, (evaluateTree_answers rfl (fun g hg => ?_) (parse_parsed ht) _ _).1⟩
  obtain rfl := Option.some.inj hg
  exact ⟨text, htext⟩

end RuleLedger.Expr
