import RuleLedger.Command.Line
import RuleLedger.Proofs.Files.Places
import RuleLedger.Proofs.Ledger.Damaged
import RuleLedger.Proofs.Run.Reload
import RuleLedger.Proofs.Terminal.Shown

/-! The exit status of the verification of a stored ledger. Main statement: for a file with a list
the status is zero exactly for the lists that verify, one exactly for lists of entries with a
defect, and two exactly for lists with an item that is no entry or with an entry that ends
verification without a verdict. -/
namespace RuleLedger

/-! ### The faults of ledgers -/

/-- A fault of data and not of files, whose message the console shows as it is. -/
structure Fault.Spoken (f : Fault) : Prop where
  unmarked : f.message.Unmarked
  noFile : ∀ cause path, f ≠ .file cause path

variable {f : Fault} {v : Value} {w : Command.Surroundings}

theorem Value.notMem_kindName (v : Value) : '[' ∉ v.kindName.toList := by
  unfold kindName
  split <;> decide

namespace Fault

theorem spoken_tooLong : Spoken (.numeric .tooLongToWrite) where
  unmarked := by simp [message, NumericFault.message]
  noFile := nofun

theorem spoken_encoding (u : Text.Unencodable) : Spoken (.encoding u) where
  unmarked := by
    rw [message, encodingMessage]
    split_ifs <;> simp
  noFile := nofun

theorem spoken_missingKey {k : Text} (hk : (Text.quoted k).Unmarked) : Spoken (.missingKey k) where
  unmarked := hk
  noFile := nofun

theorem spoken_kind {cause : KindFault} (h : cause.message.Unmarked) : Spoken (.kind cause) where
  unmarked := h
  noFile := nofun

end Fault

theorem Value.spoken_of_require {k : Text} (hk : (Text.quoted k).Unmarked)
    (h : v.require k = .error f) : f.Spoken := by
  have hlist : KindFault.listKey.message.Unmarked := by simp [KindFault.message]
  have htext : KindFault.textKey.message.Unmarked := by simp [KindFault.message]
  have hother : (KindFault.notSubscriptable v.kindName).message.Unmarked := by
    simp [KindFault.message, v.notMem_kindName]
  cases v with
  | map fs =>
    rw [require] at h
    split at h
    · cases h
    · exact Except.error.inj h ▸ Fault.spoken_missingKey hk
  | list xs => exact Except.error.inj h ▸ Fault.spoken_kind hlist
  | str s => exact Except.error.inj h ▸ Fault.spoken_kind htext
  | _ => exact Except.error.inj h ▸ Fault.spoken_kind hother

namespace Presented

variable {x : Presented} {last : Value}

theorem spoken_of_read (h : x.read = .error f) : f.Spoken := by
  have hkey (k : String) (hk : '[' ∉ k.toList) : (Text.quoted k).Unmarked :=
    ((Text.unmarked_ofString k).2 hk).quoted
  cases x with
  | entry e => cases h
  | document doc =>
    rw [read, Entry.ofValue] at h
    obtain h | ⟨id, -, h⟩ := bind_eq_error.1 h
    · exact Value.spoken_of_require (hkey "id" (by decide)) h
    obtain h | ⟨operation, -, h⟩ := bind_eq_error.1 h
    · exact Value.spoken_of_require (hkey "operation" (by decide)) h
    obtain h | ⟨hash, -, h⟩ := bind_eq_error.1 h
    · exact Value.spoken_of_require (hkey "hash" (by decide)) h
    · cases h

theorem Stops.spoken (h : x.Stops last f) : f.Spoken := by
  cases h with
  | payload _ _ hf =>
    obtain h | ⟨u, h⟩ := Value.contentHash_eq_error hf
    · exact h ▸ Fault.spoken_tooLong
    · exact h ▸ Fault.spoken_encoding u
  | kind => exact Fault.spoken_kind (by simp [KindFault.message, Value.notMem_kindName])
  | long => exact Fault.spoken_tooLong

end Presented

/-! ### Reports -/

namespace Command.Report

open Terminal (markedText?)

variable {status : Nat} {absent : String} {json : Bool} {s : Text}

theorem string?_of_plain (h : Plain s.toList) : ∃ text, s.string? = some text := by
  obtain ⟨text, hs⟩ := plain_iff_exists.1 h
  refine ⟨text, ?_⟩
  rw [Text.string?, Text.encode_eq_ok_iff.2 (congrArg Text.ofList hs)]
  rfl

/-- Whatever becomes of the blocks, status one stays. -/
theorem status_ofBlocks_one (w : Surroundings) (bs : List Block) : (ofBlocks w 1 bs).status = 1 := by
  induction bs with
  | nil => rfl
  | cons b bs ih =>
    rw [ofBlocks]
    split
    · rfl
    · split
      · rfl
      · exact ih

/-- A text that can be shown leaves the status as it is. -/
theorem status_ofBlocks_text (h : ∃ shown, markedText? s = some shown ∧ Plain shown) :
    (ofBlocks w status [.text s]).status = status := by
  obtain ⟨shown, hshown, hplain⟩ := h
  have hlines : Plain (Text.joinLines ((Terminal.wrap w.width .fold .start shown).map
      .ofList)).toList := by
    intro c hc
    obtain ⟨line, hline, hc⟩ := List.mem_flatMap.1 hc
    obtain ⟨cs, hcs, rfl⟩ := List.mem_map.1 hline
    obtain hc | hc := List.mem_append.1 hc
    · exact Terminal.plain_of_mem_wrap hplain hcs c hc
    · exact List.mem_singleton.1 hc ▸ rfl
  obtain ⟨text, htext⟩ := string?_of_plain hlines
  simp only [ofBlocks, Block.layout?, hshown, Option.map_some, htext]

/-- A document without callables and long integers leaves the status as it is. -/
theorem status_ofDocument {layout : Json.Layout} {doc : Value} (hl : layout.IsPlain)
    (hdata : doc.isData = true) (hwrite : doc.all Value.isWritable = true) :
    (ofDocument status layout doc).status = status := by
  obtain ⟨s, hs, hplain⟩ := hl.write hdata hwrite
  obtain ⟨text, htext⟩ := string?_of_plain hplain
  rw [ofDocument, hs]
  simp only [Except.toOption, Option.bind_some, htext]

theorem status_ofDocument_one (layout : Json.Layout) (doc : Value) :
    (ofDocument 1 layout doc).status = 1 := by
  unfold ofDocument
  split <;> rfl

/-- The fault of a ledger ends a command with status two. -/
theorem status_ofFault (h : f.Spoken) : (ofFault w json absent f).status = 2 := by
  have hfault : ofFault w json absent f =
      if json then ofDocument 2 .line (.map [("error", .str f.message)])
      else ofBlocks w 2 [.text ("[red]Error:[/red] " ++ f.message)] := by
    unfold ofFault
    split
    · exact absurd rfl (h.noFile _ _)
    · rfl
  rw [hfault]
  cases json with
  | true =>
    exact status_ofDocument ⟨rfl, plain_map [',', ' '], plain_map [':', ' ']⟩ rfl rfl
  | false =>
    have htext : (Text.ofString "[red]Error:[/red] " ++ f.message).toList =
        .char '[' :: .char 'r' :: (("ed" : Text).toList ++ .char ']' :: (("Error:" : Text).toList ++
          .char '[' :: .char '/' :: (.char 'r' :: ("ed" : Text).toList ++
            .char ']' :: .char ' ' :: f.message.toList))) := by
      simp [Text.ofString]
    have hstyle : Terminal.normalStyle? ⟨.char 'r' :: ("ed" : Text).toList⟩ = some "red" := by
      decide +kernel
    exact status_ofBlocks_text (Terminal.markedText?_labelled htext (by decide) (by decide)
      (by decide +kernel) (by decide) hstyle (plain_toList_ofString _)
      (Text.unmarked_cons.2 ⟨by decide, h.unmarked⟩))

end Command.Report

/-! ### The verdict as a status -/

namespace Command.VerifyRequest

open Presented

variable {t : FileTree} {docs : List Value} {r : VerifyRequest} {verdict : Verdict} {json : Bool}
  {args : List Text}

theorem status_reportVerdict (h : verdict.valid = true → verdict.checked < 10 ^ digitLimit) :
    (reportVerdict w json verdict).status = status verdict := by
  obtain ⟨n, d⟩ := verdict
  cases d with
  | some d =>
    cases json with
    | true => exact Report.status_ofDocument_one _ _
    | false =>
      cases hblocks : defectBlocks ⟨n, some d⟩ d with
      | ok blocks =>
        simp only [reportVerdict, hblocks]
        exact Report.status_ofBlocks_one w blocks
      | error f => simp [reportVerdict, hblocks, status, Verdict.valid]
  | none =>
    unfold reportVerdict
    cases json with
    | true =>
      have hn : n < 10 ^ digitLimit := h rfl
      refine Report.status_ofDocument ⟨rfl, plain_map [','], plain_map [':', ' ']⟩ rfl ?_
      rw [Verdict.toValue, Value.all_map]
      simp [Value.all, Value.isWritable, Value.nat, Value.int, hn]
    | false =>
      have htext : (Text.ofString "[green]Ledger intact:[/green] " ++ toString n ++
          " entries verified").toList =
          .char '[' :: .char 'g' :: (("reen" : Text).toList ++ .char ']' ::
            (("Ledger intact:" : Text).toList ++ .char '[' :: .char '/' ::
              (.char 'g' :: ("reen" : Text).toList ++ .char ']' :: .char ' ' ::
                ((toString n : Text) ++ " entries verified").toList))) := by
        simp [Text.ofString]
      have hstyle : Terminal.normalStyle? ⟨.char 'g' :: ("reen" : Text).toList⟩ = some "green" := by
        decide +kernel
      have hcount : ((toString n : Text) ++ " entries verified").Unmarked := by simp
      exact Report.status_ofBlocks_text (Terminal.markedText?_labelled htext (by decide)
        (by decide) (by decide +kernel) (by decide) hstyle (plain_toList_ofString _)
        (Text.unmarked_cons.2 ⟨by decide, hcount⟩))

theorem verifyFrom_of_mapM {es : Ledger} (h : docs.mapM Entry.ofValue = .ok es) (checked : Nat)
    (last : Value) : verifyFrom .ok checked last es = verifyFrom Entry.ofValue checked last docs := by
  induction docs generalizing es checked last with
  | nil => exact Except.ok.inj h ▸ rfl
  | cons doc docs ih =>
    rw [List.mapM_cons, bind_eq_ok] at h
    obtain ⟨e, he, h⟩ := h
    obtain ⟨es', hes, h⟩ := bind_eq_ok.1 h
    obtain rfl := Except.ok.inj h
    rw [verifyFrom, verifyFrom, he]
    simp only [ih hes]

theorem exists_mapM (h : ∀ doc ∈ docs, (document doc).IsEntry) :
    ∃ es, docs.mapM Entry.ofValue = .ok es := by
  induction docs with
  | nil => exact ⟨[], rfl⟩
  | cons doc docs ih =>
    obtain ⟨hdoc, hdocs⟩ := List.forall_mem_cons.1 h
    obtain ⟨e, he, -⟩ := read_of_isEntry hdoc
    obtain ⟨es, hes⟩ := ih hdocs
    refine ⟨e :: es, ?_⟩
    rw [List.mapM_cons, show Entry.ofValue doc = .ok e from he, hes]
    rfl

theorem mapM_eq_error (h : ∃ doc ∈ docs, ¬(document doc).IsEntry) :
    ∃ f, docs.mapM Entry.ofValue = .error f ∧ f.Spoken := by
  induction docs with
  | nil => exact absurd h (by simp)
  | cons doc docs ih =>
    rw [List.mapM_cons]
    by_cases hdoc : (document doc).IsEntry
    · obtain ⟨e, he, -⟩ := read_of_isEntry hdoc
      obtain ⟨f, hf, hspoken⟩ := ih (by simpa [hdoc] using h)
      refine ⟨f, ?_, hspoken⟩
      rw [show Entry.ofValue doc = .ok e from he, hf]
      rfl
    · obtain ⟨f, hf, -⟩ := read_of_not_isEntry hdoc
      refine ⟨f, ?_, spoken_of_read hf⟩
      rw [show Entry.ofValue doc = .error f from hf]
      rfl

/-- The command takes every item for an entry before it looks at any of them. -/
theorem runOn_work (h : ((Work.document ((given r.ledger).getD
      (Artifacts.ledgerPath w.environment))).runOn t).1 = .ok (.list docs)) :
    ((r.work w).runOn t).1 = docs.mapM Entry.ofValue >>= Ledger.verify := by
  have hentries : Ledger.ofValue (.list docs) = docs.mapM Entry.ofValue := rfl
  rw [work, Ledger.load, Work.runOn_bind, Work.runOn_bind, h]
  simp only [ExceptT.bindCont, Work.runOn, Work.ofExcept, ExceptT.mk, Script.runOn, hentries]
  cases docs.mapM Entry.ofValue <;> rfl

theorem runOn_script (hargs : Request.ofArguments args = .ok (.verify r)) :
    ((Session.start.script w args).runOn t).1.1 = report w r.json ((r.work w).runOn t).1 := by
  have hscript : Session.start.script w args =
      ((r.work w).run.bind fun result => .done (report w r.json result)).bind fun answer =>
        .done (Session.start.report .ledger answer) := by
    rw [Session.script, hargs]
    rfl
  rw [hscript, Script.runOn_bind, Script.runOn_bind]
  exact Session.report_start _ _

theorem verify_of_mapM {es : Ledger} (h : docs.mapM Entry.ofValue = .ok es) :
    es.verify = verifyDocument (.list docs) := verifyFrom_of_mapM h 0 (.int 0)

theorem isEntry_of_valid (h : ∃ v, verifyDocument (.list docs) = .ok v ∧ v.valid = true) :
    ∀ doc ∈ docs, (document doc).IsEntry := by
  rw [← verify_documents] at h
  intro doc hdoc
  exact (((verifyFrom_valid_iff_isChain rfl).1 h).1 _ (List.mem_map_of_mem hdoc)).1

theorem spoken_of_verifyDocument (h : verifyDocument (.list docs) = .error f) : f.Spoken := by
  rw [← verify_documents, verify, verifyFrom_eq_error_iff rfl] at h
  obtain ⟨_, _, _, -, -, hstops⟩ := h
  exact hstops.spoken

theorem checked_of_valid (h : verifyDocument (.list docs) = .ok verdict)
    (hvalid : verdict.valid = true) : verdict.checked = docs.length := by
  have hchecked := checked_of_verifyFrom (show verifyFrom Entry.ofValue 0 (.int 0) docs = _ from h)
    (Option.isNone_iff_eq_none.1 hvalid)
  rw [hchecked, Nat.zero_add]

/-- What the command answers for a stored list. Status zero stands exactly for the lists that verify,
and status one exactly for lists of entries whose verdict is not valid. An item that is no entry
gives status two, as a file that cannot be read does, even where verification finds it malformed;
and so does a list that gets no verdict. -/
theorem script_status (hargs : Request.ofArguments args = .ok (.verify r))
    (hdoc : ((Work.document ((given r.ledger).getD
      (Artifacts.ledgerPath w.environment))).runOn t).1 = .ok (.list docs))
    (hlength : docs.length < 10 ^ digitLimit) :
    let status := ((Session.start.script w args).runOn t).1.1.status
    (status = 0 ↔ ∃ v, verifyDocument (.list docs) = .ok v ∧ v.valid = true) ∧
    (status = 1 ↔ (∀ doc ∈ docs, (document doc).IsEntry) ∧
      ∃ v, verifyDocument (.list docs) = .ok v ∧ v.valid = false) ∧
    (status = 2 ↔ (∃ doc ∈ docs, ¬(document doc).IsEntry) ∨
      ∃ f, verifyDocument (.list docs) = .error f) := by
  rw [runOn_script hargs, runOn_work hdoc]
  by_cases hentries : ∀ doc ∈ docs, (document doc).IsEntry
  · obtain ⟨es, hes⟩ := exists_mapM hentries
    have hsome : ¬∃ doc ∈ docs, ¬(document doc).IsEntry := by simpa using hentries
    have hrun : (docs.mapM Entry.ofValue >>= Ledger.verify) = verifyDocument (.list docs) :=
      hes ▸ verify_of_mapM hes
    rw [hrun]
    cases hv : verifyDocument (.list docs) with
    | error f =>
      have hstatus : (report w r.json (.error f)).status = 2 :=
        Report.status_ofFault (spoken_of_verifyDocument hv)
      simp [hstatus, hsome]
    | ok v =>
      have hstatus : (report w r.json (.ok v)).status = status v :=
        status_reportVerdict fun hvalid => checked_of_valid hv hvalid ▸ hlength
      rw [hstatus, status]
      cases hvalid : v.valid with
      | true => simp [hvalid, hsome]
      | false => simpa [hvalid, hsome] using hentries
  · have hsome : ∃ doc ∈ docs, ¬(document doc).IsEntry := by simpa using hentries
    obtain ⟨f, hf, hspoken⟩ := mapM_eq_error hsome
    have hstatus : (report w r.json (docs.mapM Entry.ofValue >>= Ledger.verify)).status = 2 := by
      rw [hf]
      exact Report.status_ofFault hspoken
    have hinvalid := mt isEntry_of_valid hentries
    simp only [hstatus, hinvalid, hentries, hsome]
    simp

/-- A list with an empty mapping alone has a verdict, which is not valid, and the status of a file
that cannot be read. -/
theorem script_status_emptyItem :
    let w : Surroundings := ⟨[], ⟨0⟩, ⟨[]⟩, 80⟩
    let t : FileTree := ⟨[(FilePath.ofText "l.json", "[\x7b\x7d]")], []⟩
    (∃ v, verifyDocument (.list [.map []]) = .ok v ∧ v.valid = false) ∧
      ((Session.start.script w ["ledger", "verify", "--ledger", "l.json"]).runOn t).1.1.status =
        2 := by
  intro w t
  have hargs : Request.ofArguments ["ledger", "verify", "--ledger", "l.json"] =
      .ok (.verify ⟨some "l.json", false⟩) := rfl
  have hdoc : ((Work.document ((given (some "l.json")).getD
      (Artifacts.ledgerPath w.environment))).runOn t).1 = .ok (.list [.map []]) := rfl
  have hentry : ¬(document (.map [])).IsEntry := by
    rintro ⟨fs, hfs, hkeys⟩
    obtain rfl := Value.map.inj hfs
    exact List.not_mem_nil (hkeys "id" List.mem_cons_self)
  obtain ⟨v, hv, hinvalid⟩ := exists_ok (fun v => !v.valid)
    (x := verifyDocument (.list [.map []])) rfl
  have hlength : [Value.map []].length < 10 ^ digitLimit := Nat.one_lt_pow (by decide) (by decide)
  obtain ⟨-, -, htwo⟩ := script_status hargs hdoc hlength
  exact ⟨⟨v, hv, Bool.not_eq_true' _ ▸ hinvalid⟩,
    htwo.2 (.inl ⟨_, List.mem_singleton.2 rfl, hentry⟩)⟩

end Command.VerifyRequest

end RuleLedger
