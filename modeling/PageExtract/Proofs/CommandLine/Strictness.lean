import PageExtract.Proofs.CommandLine.Course
import PageExtract.Proofs.CommandLine.Switch
import PageExtract.Proofs.Fetch.Chain

/-!
# Strict and lenient runs

To be strict is to fail if the document cannot be fetched.  A lenient run extracts from the
empty document then, and delivers that as it delivers any record.

This is all that strictness does (`run_strict_agrees`).  The arguments are asked whether to
be strict after the last request was answered, so up to there a run goes the same way.  The
two operations of a client stand to one another as the two runs do.
-/

namespace PageExtract

/-! ## The two operations of a client -/

/-- How extraction relates to extraction that may fail, for a client with a cache. -/
structure Client.Agrees (network : Network) (resolve : Resolver) (c : Client) (url : String)
    (rules : RuleSet) (detect : Charset.Detector) (cache : Css.Cache) : Prop where
  /-- They send the same requests. -/
  requests : ((c.extract network resolve url rules detect).run cache).1.2 =
    ((c.tryExtract network resolve url rules detect).run cache).1.requests
  /-- If the one does not fail, the other gives the same record and leaves the same cache. -/
  success : ∀ record,
    ((c.tryExtract network resolve url rules detect).run cache).1.result = .ok record →
    ((c.extract network resolve url rules detect).run cache).1.1 = record ∧
      ((c.extract network resolve url rules detect).run cache).2 =
        ((c.tryExtract network resolve url rules detect).run cache).2
  /-- If fetching fails, the one fails with it and the other extracts from the empty document. -/
  absorbed : ∀ f, (fetch network resolve c.http c.fetchOptions url).result = .error f →
    ((c.tryExtract network resolve url rules detect).run cache).1.result = .error f ∧
    ((c.extract network resolve url rules detect).run cache).1.1 =
        ((extractCached "" rules).run cache).1 ∧
      ((c.extract network resolve url rules detect).run cache).2 =
        ((extractCached "" rules).run cache).2
  /-- The one fails for no other reason. -/
  only : ∀ f, ((c.tryExtract network resolve url rules detect).run cache).1.result = .error f →
    (fetch network resolve c.http c.fetchOptions url).result = .error f

theorem Client.agrees (network : Network) (resolve : Resolver) (c : Client) (url : String)
    (rules : RuleSet) (detect : Charset.Detector) (cache : Css.Cache) :
    c.Agrees network resolve url rules detect cache := by
  cases result : (fetch network resolve c.http c.fetchOptions url).result with
  | ok page =>
    have strict := Client.tryExtract_of_ok rules detect result
    have lenient := Client.extract_of_ok rules detect result
    constructor
    · rw [strict, lenient]
      rfl
    · intro record same
      rw [strict] at same ⊢
      rw [lenient]
      exact ⟨Except.ok.inj same, rfl⟩
    · intro f failed
      exact nomatch result.symm.trans failed
    · intro f failed
      rw [strict] at failed
      exact nomatch failed
  | error f =>
    have strict := Client.tryExtract_of_error rules detect result
    have lenient := Client.extract_of_error rules detect result
    constructor
    · rw [strict, lenient]
      rfl
    · intro record same
      rw [strict] at same
      exact nomatch same
    · intro f' failed
      obtain rfl := Except.error.inj (result.symm.trans failed)
      rw [strict, lenient]
      exact ⟨rfl, rfl, rfl⟩
    · intro f' failed
      rw [strict] at failed
      obtain rfl := Except.error.inj failed
      exact result

namespace CommandLine

/-! ## The two runs -/

/-- How a lenient run relates to the strict run that differs from it in nothing else. -/
structure RunsAgree (args : Arguments) (world : World) (files : Folder)
    (strict lenient : Result) : Prop where
  /-- They send the same requests. -/
  requests : lenient.requests = strict.requests
  /-- If fetching fails, the strict run fails with it.  The lenient run delivers the record of
  the empty document as any other, and goes well unless there is a file that it cannot write. -/
  absorbed : ∀ client url rules f, args.Asks world client url rules →
    (world.fetch client url).result = .error f →
    strict = ⟨1, "", ["error: " ++ f.chain], args.timing, files,
      (world.fetch client url).requests⟩ ∧
    lenient = args.deliver files (world.fetch client url).requests
      (.ok (args.write (extract "" rules))) ∧
    (lenient.exitCode = 0 ∨ ∃ path fault, args.output = some path ∧
      files.write path (Charset.Utf8.encode (args.write (extract "" rules)).toList) =
        .error fault)
  /-- If the strict run fails before it asks anything of the network, so does the lenient run. -/
  unready : ∀ fault, args.Unready world fault →
    strict = ⟨1, "", ["error: " ++ fault.message], args.timing, files, []⟩ ∧ lenient = strict
  /-- They leave the same behind unless fetching fails. -/
  only : lenient = strict ∨ ∃ client url rules f, args.Asks world client url rules ∧
    (world.fetch client url).result = .error f

namespace Arguments

variable {args : Arguments} {world : World}

/-- What a strict run extracts is extracted by the lenient run too, unless fetching fails. -/
theorem Extracts.lenient {e : Extracted} (h : args.Extracts world e) (strict : args.strict = true) :
    { args with strict := false }.Extracts world e ∨
      ∃ client url rules f, args.Asks world client url rules ∧
        (world.fetch client url).result = .error f := by
  cases h with
  | unready h => exact .inl (.unready (h.change false args.output))
  | read loads named found => exact .inl (.read loads named found)
  | fetched asks found => exact .inl (.fetched (asks.change false args.output) found)
  | refused asks failed _ => exact .inr ⟨_, _, _, _, asks, failed⟩
  | absorbed asks failed lenient => exact nomatch strict.symm.trans lenient

end Arguments

variable {files : Folder} {network : Network} {resolve : Resolver} {detect : Charset.Detector}
  {strictLine line : List String} {args : Arguments}

theorem runsAgree (strict : args.strict = true) (accepted : Arguments.parse strictLine = .ok args)
    (accepted' : Arguments.parse line = .ok { args with strict := false }) :
    RunsAgree args ⟨files.readText, network, resolve, detect⟩ files
      (run files network resolve strictLine detect) (run files network resolve line detect) := by
  have only : run files network resolve line detect = run files network resolve strictLine detect ∨
      ∃ client url rules f, args.Asks ⟨files.readText, network, resolve, detect⟩ client url rules ∧
        (fetch network resolve client.http client.fetchOptions url).result = .error f := by
    obtain ⟨⟨extracted, requests⟩, extracts⟩ :=
      args.exists_extracts ⟨files.readText, network, resolve, detect⟩
    refine (extracts.lenient strict).imp_left ?_
    intro extracts'
    exact (extracts'.run accepted').trans (extracts.run accepted).symm
  refine ⟨?requests, ?absorbed, ?unready, only⟩
  case requests =>
    obtain same | ⟨client, url, rules, f, asks, failed⟩ := only
    · rw [same]
    · rw [run_of_refused accepted strict asks failed,
        run_of_absorbed accepted' rfl (asks.change false args.output) failed]
      exact Arguments.requests_deliver _ _ _ _
  case absorbed =>
    intro client url rules f asks failed
    rw [run_of_refused accepted strict asks failed,
      run_of_absorbed accepted' rfl (asks.change false args.output) failed]
    exact ⟨rfl, rfl, Arguments.exitCode_deliver _ _ _ _⟩
  case unready =>
    intro fault unready
    rw [run_of_unready accepted unready,
      run_of_unready accepted' (unready.change false args.output)]
    exact ⟨rfl, rfl⟩

/-- If a strict run goes well, the lenient run leaves the same behind. -/
theorem run_eq_of_strict {before after : List String}
    (well : (run files network resolve (before ++ "--strict" :: after) detect).exitCode = 0) :
    run files network resolve (before ++ after) detect =
      run files network resolve (before ++ "--strict" :: after) detect := by
  cases said : Arguments.parse (before ++ "--strict" :: after) with
  | ok args =>
    obtain ⟨strict, accepted⟩ := Arguments.parse_without_strict said
    obtain same | ⟨client, url, rules, f, asks, failed⟩ :=
      (runsAgree strict said accepted).only
    · exact same
    · rw [run_of_refused said strict asks failed] at well
      exact absurd well Nat.one_ne_zero
  | error fault =>
    by_cases wanted : fault = .helpWanted
    · subst wanted
      rw [run, run, said, Arguments.parse_help_without_strict said]
    · rw [exitCode_of_rejected said wanted] at well
      exact absurd well (Nat.succ_ne_zero 1)

/-- Each line that is accepted without the switch has a place for it, and a line that is rejected
without it is rejected with it, and then neither run does anything.  If the strict run goes well,
the lenient run leaves the same behind.  Wherever the switch is put so that the line is accepted,
the two runs agree, as do the two operations of each client: they differ only if fetching fails, and
then the strict one fails with it and the lenient one extracts from the empty document. -/
theorem run_strict_agrees (files : Folder) (network : Network) (resolve : Resolver)
    (detect : Charset.Detector) :
    (∀ line args, Arguments.parse line = .ok args → args.strict = false →
      ∃ before after, line = before ++ after ∧
        Arguments.parse (before ++ "--strict" :: after) = .ok { args with strict := true }) ∧
    (∀ before after fault, Arguments.parse (before ++ after) = .error fault →
      (∃ fault', Arguments.parse (before ++ "--strict" :: after) = .error fault') ∧
      ∀ line ∈ [before ++ after, before ++ "--strict" :: after],
        (run files network resolve line detect).requests = [] ∧
          (run files network resolve line detect).files = files) ∧
    (∀ before after,
      (run files network resolve (before ++ "--strict" :: after) detect).exitCode = 0 →
      run files network resolve (before ++ after) detect =
        run files network resolve (before ++ "--strict" :: after) detect) ∧
    (∀ before after args, Arguments.parse (before ++ "--strict" :: after) = .ok args →
      RunsAgree args ⟨files.readText, network, resolve, detect⟩ files
        (run files network resolve (before ++ "--strict" :: after) detect)
        (run files network resolve (before ++ after) detect)) ∧
    ∀ (c : Client) (url : String) (rules : RuleSet) (cache : Css.Cache),
      c.Agrees network resolve url rules detect cache := by
  refine ⟨fun line args => Arguments.exists_parse_strict, ?_, fun before after => run_eq_of_strict,
    ?_, fun c url rules => Client.agrees network resolve c url rules detect⟩
  · intro before after fault rejected
    obtain ⟨fault', rejected'⟩ := Arguments.parse_strict_of_error rejected
    refine ⟨⟨fault', rejected'⟩, List.forall_mem_cons.mpr ⟨run_of_rejected rejected, ?_⟩⟩
    exact List.forall_mem_singleton.mpr (run_of_rejected rejected')
  · intro before after args accepted
    obtain ⟨strict, accepted'⟩ := Arguments.parse_without_strict accepted
    exact runsAgree strict accepted accepted'

theorem run_strict_agrees_notFound :
    let job := "\x7b\"url\":\"http://8.8.8.8/\",\"rules\":" ++
      "\x7b\"t\":\x7b\"kind\":\"text\",\"selector\":\"h1\"\x7d\x7d\x7d"
    let files : Folder := ⟨[(["c"], .file (Charset.Utf8.encode job.toList))]⟩
    let network : Network := ⟨fun _ _ => .answered ⟨404, [], none, [], .complete⟩⟩
    let strict := run files network .alone ["-c", "c", "--strict"]
    let lenient := run files network .alone ["-c", "c"]
    strict.exitCode = 1 ∧ strict.output = "" ∧ lenient.exitCode = 0 ∧
      lenient.output = "\x7b\n  \"t\": \"\"\n\x7d\n" ∧ lenient.requests = strict.requests := by
  intro job files network strict lenient
  let args : Arguments := { config := "c", strict := true }
  let rules : RuleSet := ⟨[("t", .text "h1")]⟩
  let client : Client := ⟨{}, ⟨"Gleaner/0.1.0"⟩⟩
  let url : Url :=
    ⟨.http, [], none, .address (.v4 (Ipv4.ofOctets [8, 8, 8, 8])), none, [[]], none, none⟩
  have accepted : Arguments.parse ["-c", "c", "--strict"] = .ok args :=
    toOption_eq_some_iff.mp (by decide +kernel)
  have asks :
      args.Asks ⟨files.readText, network, .alone, .plain⟩ client "http://8.8.8.8/" rules := by
    refine ⟨⟨⟨some "http://8.8.8.8/", rules⟩, ⟨job, ?_, ?_⟩, rfl, rfl⟩, rfl, ?_⟩
    · exact toOption_eq_some_iff.mp (by decide +kernel)
    · exact toOption_eq_some_iff.mp (by decide +kernel)
    · exact toOption_eq_some_iff.mp (by decide +kernel)
  obtain ⟨request, made⟩ : ∃ request, Request.make? client.http .empty url = some request :=
    ⟨_, rfl⟩
  have start : startUrl .alone client.fetchOptions "http://8.8.8.8/" = .ok url :=
    toOption_eq_some_iff.mp (by decide +kernel)
  have read : readBody maxContentLength ⟨404, [], none, [], .complete⟩ = .ok [] :=
    toOption_eq_some_iff.mp (by decide +kernel)
  have fetched : fetch network .alone client.http client.fetchOptions "http://8.8.8.8/" =
      ⟨.error ⟨.fetch, "http://8.8.8.8/", "Fetch", some (.text "HTTP status 404")⟩, [request]⟩ := by
    rw [fetch_of_chain start .here (Nat.zero_le _) ⟨made, rfl, .inl (by decide)⟩,
      documentOf_of_body read]
    rfl
  have agree := (run_strict_agrees files network .alone .plain).2.2.2.1 ["-c", "c"] [] args accepted
  obtain ⟨strict', lenient', -⟩ := agree.absorbed client _ rules _ asks (congrArg _ fetched)
  have text : args.write (extract "" rules) = "\x7b\n  \"t\": \"\"\n\x7d" := by decide +kernel
  rw [text, Arguments.deliver_printed rfl] at lenient'
  exact ⟨congrArg Result.exitCode strict', congrArg Result.output strict',
    congrArg Result.exitCode lenient', congrArg Result.output lenient', agree.requests⟩

end CommandLine

end PageExtract
