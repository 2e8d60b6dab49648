import Mathlib
import NspMigrator.ReportRules
import NspMigrator.SqlLike
import NspMigrator.SqlPages

/-!
# Listings of saved reports

Reports and their rules are searched, filtered and read page by page. A search
text is escaped before it becomes a pattern, and days are days of universal
time. The pages of one listing hold every match once, and each of them tells
how many there are.
-/

namespace NspMigrator.ReportQueries

open PyText SqlLike SqlPages ExecuteRepository ExecuteRuleValues ReportRules

/-- A saved report. Times are microseconds of universal time. -/
structure ReportModel where
  /-- The number of the report. -/
  id : ℕ
  /-- Its title. -/
  title : String
  /-- When it was created, in microseconds. -/
  createdAt : ℤ
  /-- The profile the rules were pushed with. -/
  cspProfileId : ℕ
  /-- The commit of the push. -/
  commitId : Option ℤ
  /-- The name of the project. -/
  projectName : String
  /-- The project. -/
  vpcId : String
  /-- The name of the target. -/
  targetName : String
  /-- The target. -/
  targetId : String
  deriving DecidableEq

/-- A saved rule of a report. -/
structure ReportRuleModel where
  /-- The number of the row. -/
  id : ℕ
  /-- The report it belongs to. -/
  reportId : ℕ
  /-- The name of the policy. -/
  policyName : String
  /-- What it does with the traffic. -/
  action : SdwanRuleAction
  /-- Its place among the rules. -/
  priority : ℤ
  /-- The names of its source zones. -/
  srcZoneNames : List String
  /-- The names of its destination zones. -/
  dstZoneNames : List String
  /-- Its source addresses, in words. -/
  srcAddrValues : List String
  /-- Its destination addresses, in words. -/
  dstAddrValues : List String
  /-- Its services, in words. -/
  serviceValues : List String
  /-- What became of it. -/
  migrationResult : ReportRuleMigrationResult
  /-- Why. -/
  reason : String
  deriving DecidableEq

/-- What part of a listing is asked for. -/
structure Pagination where
  /-- How many rows a page has at most. -/
  limit : Option ℕ
  /-- How many rows come before it. -/
  offset : ℕ
  /-- A page is not empty by its limit. -/
  limit_pos : ∀ size,limit=some size → 0 < size

/-- One page after the others of its size. -/
def Pagination.ofPage (size : ℕ) (h : 0 < size) (i : ℕ) : Pagination :=
  ⟨some size,i*size,fun _ hsize => Option.some.inj hsize▸h⟩

/-- The direction of a listing. -/
inductive SortDirection where
  | asc
  | desc
  deriving DecidableEq

/-- Filters over report headers. Days are counted as by the calendar of Python. -/
structure ReportHeaderFilters where
  /-- A text of the title. -/
  searchByName : Option String := none
  /-- The first day. -/
  createdFrom : Option ℕ := none
  /-- The last day. -/
  createdTo : Option ℕ := none
  /-- The profile. -/
  cspProfileId : Option ℕ := none
  /-- The project. -/
  vpcId : Option String := none
  /-- The targets. -/
  targetIds : List String := []

/-- Filters over the rules of a report. -/
structure ReportRuleFilters where
  /-- A text of the name of the policy. -/
  searchByPolicyName : Option String := none
  /-- A text of a value. -/
  searchByObjectValue : Option String := none
  /-- What may have become of the rule. -/
  migrationResults : List ReportRuleMigrationResult := []

/-- One part of a listing with the number of all matches. -/
structure ReportPage (α : Type) where
  /-- The rows of the page. -/
  rows : List α
  /-- How many rows there are on all pages. -/
  total : ℕ

/-- A text with an escape before the characters that have a meaning in patterns. -/
def escapeLike (value : List Char) : List Char :=
  replaceChar '_' ['\\','_'] (replaceChar '%' ['\\','%'] (replaceChar '\\' ['\\','\\'] value))

/-- Whether the database finds a search inside a text. -/
def partialMatch (lower : Char → Char) (search text : String) : Bool :=
  ilike lower '\\' (['%']++escapeLike search.toList++['%']) text.toList==some true

/-- The length of a day. -/
def dayMicroseconds : ℤ := 24*60*60*1000000

/-- The last day of the calendar. -/
def maxOrdinal : ℕ := 3652059

/-- When a day starts. -/
def startOfUtcDay (day : ℕ) : ℤ := day*dayMicroseconds

/-- The order of times in a direction. -/
def timeOrder : SortDirection → KeyOrder ℤ
  | .asc => .linear ℤ
  | .desc => (KeyOrder.linear ℤ).reverse

/-- A page of the reports that are kept, by creation time. -/
def headersPage (reports : List ReportModel) (pagination : Pagination)
    (keeps : ReportModel → Bool) (direction : SortDirection) : ReportPage ReportModel where
  rows := page pagination.limit pagination.offset ((reports.filter keeps).insertionSort
    (orderBy (timeOrder direction) ReportModel.createdAt ReportModel.id))
  total := (reports.filter keeps).length

/-- A page of the rules that are kept, by priority. -/
def rulesPage (rules : List ReportRuleModel) (pagination : Pagination)
    (keeps : ReportRuleModel → Bool) : ReportPage ReportRuleModel where
  rows := page pagination.limit pagination.offset ((rules.filter keeps).insertionSort
    (orderBy (.linear ℤ) ReportRuleModel.priority ReportRuleModel.id))
  total := (rules.filter keeps).length

/-- The day of a time. -/
def utcDay (time : ℤ) : ℤ := time/dayMicroseconds

section Texts

variable {lower : Char → Char}

/-- The database finds a search exactly where it stands in the text. -/
theorem partialMatch_iff (h : KeepsSpecial lower) (search text : String) :
    partialMatch lower search text=true ↔ Contains lower search text := by
  rw [partialMatch,escapeLike,escapeText_eq,ilike_escaped h,beq_iff_eq,Option.some.injEq,
    decide_eq_true_eq]
  rfl

theorem startOfUtcDay_le {day : ℕ} {time : ℤ} : startOfUtcDay day ≤ time ↔ day ≤ utcDay time := by
  rw [startOfUtcDay,utcDay,Int.le_ediv_iff_mul_le (by decide)]

theorem lt_startOfUtcDay {day : ℕ} {time : ℤ} :
    time < startOfUtcDay (day+1) ↔ utcDay time ≤ day := by
  rw [startOfUtcDay,utcDay,←Int.ediv_lt_iff_lt_mul (by decide)]
  push_cast
  omega

end Texts

section Queries

variable [PyUnicode]

/-- A search without the white space around it, none where nothing else is in it. -/
def normalizedSearchValue : Option String → Option String
  | none => none
  | some value => if value="" then none else if strip value="" then none else some (strip value)

/-- The predicate that pages and totals of headers share. The day after the last
one of the calendar cannot be computed. -/
def filteredQuery (lower : Char → Char) (filters : ReportHeaderFilters) :
    Except PyException (ReportModel → Bool) := do
  let createdBefore : Option ℤ ← match filters.createdTo with
    | none => pure none
    | some day =>
      if maxOrdinal<day+1 then .error ⟨"OverflowError","date value out of range"⟩
      else pure (some (startOfUtcDay (day+1)))
  return fun report =>
    ((normalizedSearchValue filters.searchByName).all fun search =>
      partialMatch lower search report.title) &&
    (filters.createdFrom.all fun day => decide (startOfUtcDay day ≤ report.createdAt)) &&
    (createdBefore.all fun stop => decide (report.createdAt < stop)) &&
    (filters.cspProfileId.all fun profileId => decide (report.cspProfileId=profileId)) &&
    (filters.vpcId.all fun vpcId => decide (report.vpcId=vpcId)) &&
    (filters.targetIds.isEmpty || decide (report.targetId∈filters.targetIds))

/-- A page of report headers. -/
def listReportHeaders (lower : Char → Char) (reports : List ReportModel) (pagination : Pagination)
    (filters : ReportHeaderFilters) (direction : SortDirection) :
    Except PyException (ReportPage ReportModel) := do
  return headersPage reports pagination (← filteredQuery lower filters) direction

/-- The predicate that pages and totals of the rules of a report share. -/
def filteredReportRulesQuery (lower : Char → Char) (reportId : ℕ) (filters : ReportRuleFilters)
    (rule : ReportRuleModel) : Bool :=
  decide (rule.reportId=reportId) &&
  ((normalizedSearchValue filters.searchByPolicyName).all fun search =>
    partialMatch lower search rule.policyName) &&
  ((normalizedSearchValue filters.searchByObjectValue).all fun search =>
    rule.srcZoneNames.any (partialMatch lower search) ||
    rule.dstZoneNames.any (partialMatch lower search) ||
    rule.srcAddrValues.any (partialMatch lower search) ||
    rule.dstAddrValues.any (partialMatch lower search) ||
    rule.serviceValues.any (partialMatch lower search)) &&
  (filters.migrationResults.isEmpty || decide (rule.migrationResult∈filters.migrationResults))

/-- A page of the rules of a report; nothing where there is no such report. -/
def listReportRules (lower : Char → Char) (reports : List ReportModel)
    (rules : List ReportRuleModel) (reportId : ℕ) (pagination : Pagination)
    (filters : ReportRuleFilters) : Option (ReportPage ReportRuleModel) :=
  if reports.any (fun report => decide (report.id=reportId))=true then
    some (rulesPage rules pagination (filteredReportRulesQuery lower reportId filters))
  else none

/-- The rules of a report, or an error where there is no such report. -/
def getReportRules (lower : Char → Char) (reports : List ReportModel)
    (rules : List ReportRuleModel) (reportId : ℕ) (pagination : Pagination)
    (filters : ReportRuleFilters) : Except PyException (ReportPage ReportRuleModel) :=
  match listReportRules lower reports rules reportId pagination filters with
  | none => .error ⟨"ReportsModuleNotFoundError","Report "++toString reportId++" not found"⟩
  | some page => .ok page

section Meaning

variable {lower : Char → Char}

/-- What a listing of headers is asked for. -/
structure HeaderMatches (lower : Char → Char) (filters : ReportHeaderFilters)
    (report : ReportModel) : Prop where
  /-- The text is part of the title. -/
  title : ∀ search,normalizedSearchValue filters.searchByName=some search →
    Contains lower search report.title
  /-- The report was not created before the first day. -/
  since : ∀ day : ℕ,filters.createdFrom=some day → day ≤ utcDay report.createdAt
  /-- It was not created after the last day. -/
  upTo : ∀ day : ℕ,filters.createdTo=some day → utcDay report.createdAt ≤ day
  /-- It is of the profile. -/
  profile : ∀ profileId,filters.cspProfileId=some profileId → report.cspProfileId=profileId
  /-- It is of the project. -/
  vpc : ∀ vpcId,filters.vpcId=some vpcId → report.vpcId=vpcId
  /-- It is of one of the targets, if there are any. -/
  target : filters.targetIds=[] ∨ report.targetId∈filters.targetIds

/-- What a listing of the rules of a report is asked for. -/
structure RuleMatches (lower : Char → Char) (reportId : ℕ) (filters : ReportRuleFilters)
    (rule : ReportRuleModel) : Prop where
  /-- The row is part of the report. -/
  report : rule.reportId=reportId
  /-- The text is part of the name of its policy. -/
  policy : ∀ search,normalizedSearchValue filters.searchByPolicyName=some search →
    Contains lower search rule.policyName
  /-- The text is part of one of its values. -/
  value : ∀ search,normalizedSearchValue filters.searchByObjectValue=some search →
    ∃ value∈rule.srcZoneNames++rule.dstZoneNames++rule.srcAddrValues++rule.dstAddrValues++
      rule.serviceValues,Contains lower search value
  /-- What became of the rule is one of the results, if there are any. -/
  result : filters.migrationResults=[] ∨ rule.migrationResult∈filters.migrationResults

/-- Headers are filtered by what is asked for, unless a day has no day after it. -/
theorem filteredQuery_spec (h : KeepsSpecial lower) {filters : ReportHeaderFilters}
    (hto : ∀ day,filters.createdTo=some day → day < maxOrdinal) :
    ∃ keeps,filteredQuery lower filters=.ok keeps ∧
      ∀ report,keeps report=true ↔ HeaderMatches lower filters report := by
  have hquery : ∃ createdBefore : Option ℤ,
      (∀ report : ReportModel,
        (createdBefore.all fun stop => decide (report.createdAt < stop))=true ↔
        ∀ day,filters.createdTo=some day → utcDay report.createdAt ≤ day) ∧
      filteredQuery lower filters=.ok fun report =>
        ((normalizedSearchValue filters.searchByName).all fun search =>
          partialMatch lower search report.title) &&
        (filters.createdFrom.all fun day => decide (startOfUtcDay day ≤ report.createdAt)) &&
        (createdBefore.all fun stop => decide (report.createdAt < stop)) &&
        (filters.cspProfileId.all fun profileId => decide (report.cspProfileId=profileId)) &&
        (filters.vpcId.all fun vpcId => decide (report.vpcId=vpcId)) &&
        (filters.targetIds.isEmpty || decide (report.targetId∈filters.targetIds)) := by
    unfold filteredQuery
    cases hday : filters.createdTo with
    | none =>
      refine ⟨none,fun report => ⟨fun _ day hd => ?_,fun _ => rfl⟩,rfl⟩
      cases hd
    | some day =>
      refine ⟨some (startOfUtcDay (day+1)),fun report => ?_,?_⟩
      · rw [Option.all_some,decide_eq_true_eq,lt_startOfUtcDay]
        constructor
        · intro hle other ho
          cases ho
          exact hle
        · exact fun hall => hall day rfl
      · have hlast : ¬maxOrdinal < day+1 := by
          have hlt := hto day hday
          omega
        dsimp only
        rw [if_neg hlast]
        rfl
  obtain ⟨createdBefore,hbefore,hquery⟩ := hquery
  refine ⟨_,hquery,fun report => ?_⟩
  simp only [Bool.and_eq_true,Bool.or_eq_true,hbefore,all_eq_true,decide_eq_true_eq,
    List.isEmpty_iff,startOfUtcDay_le,partialMatch_iff h]
  constructor
  · rintro ⟨⟨⟨⟨⟨htitle,hfrom⟩,hto⟩,hprofile⟩,hvpc⟩,htarget⟩
    exact ⟨htitle,hfrom,hto,hprofile,hvpc,htarget⟩
  · rintro ⟨htitle,hfrom,hto,hprofile,hvpc,htarget⟩
    exact ⟨⟨⟨⟨⟨htitle,hfrom⟩,hto⟩,hprofile⟩,hvpc⟩,htarget⟩

/-- Rules of a report are filtered by what is asked for. -/
theorem filteredReportRulesQuery_iff (h : KeepsSpecial lower) {reportId : ℕ}
    {filters : ReportRuleFilters} {rule : ReportRuleModel} :
    filteredReportRulesQuery lower reportId filters rule=true ↔
      RuleMatches lower reportId filters rule := by
  have hany : ∀ (search : String) (values : List String),
      values.any (partialMatch lower search)=true ↔
        ∃ value∈values,Contains lower search value := by
    intro search values
    rw [List.any_eq_true]
    exact exists_congr fun value => and_congr_right fun _ => partialMatch_iff h search value
  have happend : ∀ (search : String) (first second : List String),
      (∃ value∈first++second,Contains lower search value) ↔
        (∃ value∈first,Contains lower search value) ∨
          ∃ value∈second,Contains lower search value := by
    intro search first second
    constructor
    · rintro ⟨value,hv,hc⟩
      rcases List.mem_append.mp hv with hv|hv
      · exact Or.inl ⟨value,hv,hc⟩
      · exact Or.inr ⟨value,hv,hc⟩
    · rintro (⟨value,hv,hc⟩|⟨value,hv,hc⟩)
      · exact ⟨value,List.mem_append_left _ hv,hc⟩
      · exact ⟨value,List.mem_append_right _ hv,hc⟩
  unfold filteredReportRulesQuery
  simp only [Bool.and_eq_true,Bool.or_eq_true,all_eq_true,decide_eq_true_eq,List.isEmpty_iff,
    partialMatch_iff h,hany,←happend]
  constructor
  · rintro ⟨⟨⟨hreport,hpolicy⟩,hvalue⟩,hresult⟩
    exact ⟨hreport,hpolicy,hvalue,hresult⟩
  · rintro ⟨hreport,hpolicy,hvalue,hresult⟩
    exact ⟨⟨⟨hreport,hpolicy⟩,hvalue⟩,hresult⟩

/-- The pages of one listing of headers hold every match once and in order, and
each page tells how many there are, however the table lies when it is read. -/
theorem report_header_pages (hlower : KeepsSpecial lower) {reports : List ReportModel}
    (hids : (reports.map (·.id)).Nodup) {filters : ReportHeaderFilters}
    (hto : ∀ day,filters.createdTo=some day → day < maxOrdinal) (direction : SortDirection)
    {tables : ℕ → List ReportModel} (htables : ∀ i,(tables i).Perm reports) {size : ℕ}
    (hsize : 0 < size) :
    ∃ (pages : ℕ → ReportPage ReportModel) (listing : List ReportModel),
      (∀ i,listReportHeaders lower (tables i) (.ofPage size hsize i) filters direction=
        .ok (pages i)) ∧
      (∀ count,listing.length≤count*size →
        (List.range count).flatMap (fun i => (pages i).rows)=listing) ∧
      listing.Nodup ∧
      listing.Pairwise (orderBy (timeOrder direction) ReportModel.createdAt ReportModel.id) ∧
      (∀ report,report∈listing ↔ report∈reports ∧ HeaderMatches lower filters report) ∧
      ∀ i,(pages i).total=listing.length := by
  obtain ⟨keeps,hkeeps,hmatches⟩ := filteredQuery_spec hlower hto
  have hlisting := listing_filter (timeOrder direction) ReportModel.createdAt hids keeps
  refine ⟨fun i => headersPage (tables i) (.ofPage size hsize i) keeps direction,_,fun i => ?_,
    fun count hcount => ?_,hlisting.nodup,hlisting.sorted,fun report => ?_,fun i => ?_⟩
  · rw [listReportHeaders,hkeeps]
    rfl
  · exact hlisting.pages htables hcount
  · rw [hlisting.mem,hmatches]
  · exact (hlisting.query (tables i) (htables i)).1

/-- So do the pages of the rules of a report. -/
theorem report_rule_pages (hlower : KeepsSpecial lower) {reports : List ReportModel}
    {rules : List ReportRuleModel} (hids : (rules.map (·.id)).Nodup) {reportId : ℕ}
    (hreport : ∃ report∈reports,report.id=reportId) (filters : ReportRuleFilters)
    {tables : ℕ → List ReportRuleModel} (htables : ∀ i,(tables i).Perm rules) {size : ℕ}
    (hsize : 0 < size) :
    ∃ (pages : ℕ → ReportPage ReportRuleModel) (listing : List ReportRuleModel),
      (∀ i,getReportRules lower reports (tables i) reportId (.ofPage size hsize i) filters=
        .ok (pages i)) ∧
      (∀ count,listing.length≤count*size →
        (List.range count).flatMap (fun i => (pages i).rows)=listing) ∧
      listing.Nodup ∧
      listing.Pairwise (orderBy (.linear ℤ) ReportRuleModel.priority ReportRuleModel.id) ∧
      (∀ rule,rule∈listing ↔ rule∈rules ∧ RuleMatches lower reportId filters rule) ∧
      ∀ i,(pages i).total=listing.length := by
  have hfound : reports.any (fun report => decide (report.id=reportId))=true := by
    obtain ⟨report,hr,hid⟩ := hreport
    exact List.any_eq_true.mpr ⟨report,hr,decide_eq_true hid⟩
  have hlisting := listing_filter (.linear ℤ) ReportRuleModel.priority hids
    (filteredReportRulesQuery lower reportId filters)
  refine ⟨fun i => rulesPage (tables i) (.ofPage size hsize i)
    (filteredReportRulesQuery lower reportId filters),_,fun i => ?_,
    fun count hcount => ?_,hlisting.nodup,hlisting.sorted,fun rule => ?_,fun i => ?_⟩
  · rw [getReportRules,listReportRules,if_pos hfound]
  · exact hlisting.pages htables hcount
  · rw [hlisting.mem,filteredReportRulesQuery_iff hlower]
  · exact (hlisting.query (tables i) (htables i)).1

end Meaning

end Queries

/-- Two reports of one day, and one of the day after. -/
def sampleReports : List ReportModel :=
  [⟨1,"Site_A",startOfUtcDay 739000+5,1,some 7,"p","v","t","d"⟩,
    ⟨2,"site_a",startOfUtcDay 739000+9,1,none,"p","v","t","d"⟩,
    ⟨3,"SiteXA",startOfUtcDay 739000+7,1,none,"p","v","t","d"⟩,
    ⟨4,"site_a",startOfUtcDay 739001,1,none,"p","v","t","d"⟩]

/-- A search up to a day, with an underscore. -/
def sampleFilters : ReportHeaderFilters where
  searchByName := some " SITE_a "
  createdTo := some 739000

/-- The underscore of a search is taken as it is. -/
theorem report_header_pages_sample : ∃ pages : ℕ → ReportPage ReportModel,
    (∀ i,@listReportHeaders asciiUnicode Char.toLower sampleReports (.ofPage 1 (by decide) i)
      sampleFilters .desc=.ok (pages i)) ∧
    (pages 0).rows.map (·.id)=[2] ∧ (pages 1).rows.map (·.id)=[1] ∧ (pages 1).total=2 := by
  obtain ⟨pages,listing,hpages,-⟩ := @report_header_pages asciiUnicode Char.toLower
    keepsSpecial_toLower sampleReports (by decide) sampleFilters
    (fun day hday => by cases hday; decide) .desc (fun _ => sampleReports)
    (fun _ => List.Perm.refl _) 1 (by decide)
  have hfirst : (@listReportHeaders asciiUnicode Char.toLower sampleReports
      (.ofPage 1 (by decide) 0) sampleFilters .desc).map (fun page => page.rows.map (·.id))=
        .ok [2] := by decide +kernel
  have hsecond : (@listReportHeaders asciiUnicode Char.toLower sampleReports
      (.ofPage 1 (by decide) 1) sampleFilters .desc).map
        (fun page => (page.rows.map (·.id),page.total))=.ok ([1],2) := by decide +kernel
  rw [hpages 0] at hfirst
  rw [hpages 1] at hsecond
  have hpair := Except.ok.inj hsecond
  exact ⟨pages,hpages,Except.ok.inj hfirst,congrArg Prod.fst hpair,congrArg Prod.snd hpair⟩

/-- Rules of two reports, with priorities that are not in the order of the table. -/
def sampleRules : List ReportRuleModel :=
  [⟨1,1,"web",.accept,30,["lan"],["wan"],["10.0.0.1"],[],["tcp/80"],.pushed,"Success"⟩,
    ⟨2,1,"mail",.accept,10,["lan"],["wan"],[],["192.0.0.7"],["tcp/25"],.failed,"Refused"⟩,
    ⟨3,2,"web",.accept,20,["lan"],["wan"],["10.0.0.1"],[],["tcp/80"],.pushed,"Success"⟩,
    ⟨4,1,"dns",.drop,20,["lan"],["wan"],["10.1.1.1"],[],["udp/53"],.pushed,"Success"⟩,
    ⟨5,1,"ntp",.accept,30,["lan"],["wan"],["10.0.0.9"],[],["udp/123"],.pushed,"Success"⟩]

/-- Rules are found by their addresses on either side, by priority and number. -/
theorem report_rule_pages_sample : ∃ pages : ℕ → ReportPage ReportRuleModel,
    (∀ i,@getReportRules asciiUnicode Char.toLower sampleReports sampleRules 1
      (.ofPage 2 (by decide) i) { searchByObjectValue := some "0.0" }=.ok (pages i)) ∧
    (pages 0).rows.map (·.id)=[2,1] ∧ (pages 1).rows.map (·.id)=[5] ∧ (pages 1).total=3 := by
  obtain ⟨pages,listing,hpages,-⟩ := @report_rule_pages asciiUnicode Char.toLower
    keepsSpecial_toLower sampleReports sampleRules (by decide) 1 ⟨_,List.mem_cons_self,rfl⟩
    { searchByObjectValue := some "0.0" } (fun _ => sampleRules) (fun _ => List.Perm.refl _) 2
    (by decide)
  have hfirst : (@getReportRules asciiUnicode Char.toLower sampleReports sampleRules 1
      (.ofPage 2 (by decide) 0) { searchByObjectValue := some "0.0" }).map
        (fun page => page.rows.map (·.id))=.ok [2,1] := by decide +kernel
  have hsecond : (@getReportRules asciiUnicode Char.toLower sampleReports sampleRules 1
      (.ofPage 2 (by decide) 1) { searchByObjectValue := some "0.0" }).map
        (fun page => (page.rows.map (·.id),page.total))=.ok ([5],3) := by decide +kernel
  rw [hpages 0] at hfirst
  rw [hpages 1] at hsecond
  have hpair := Except.ok.inj hsecond
  exact ⟨pages,hpages,Except.ok.inj hfirst,congrArg Prod.fst hpair,congrArg Prod.snd hpair⟩

end NspMigrator.ReportQueries
