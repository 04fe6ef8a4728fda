import StepSheet.Phrase.Basic

/-!
# Report texts

The headings, labels and counts of the summary on the console, of the summary
page and of the analytics page.
-/

namespace StepSheet.Phrase

/-! ### Summary on the console -/

def summaryTitle : Phrase := ⟨"🎯 TEST EXECUTION SUMMARY", "🎯 测试执行摘要"⟩

def executionDate (date : String) : Phrase := ⟨s!"Execution Date: {date}", s!"执行日期：{date}"⟩

def totalDuration (duration : String) : Phrase := ⟨s!"Duration: {duration}", s!"耗时：{duration}"⟩

def overallTitle : Phrase := ⟨"📊 OVERALL STATISTICS", "📊 总体统计"⟩

def casesHeading : Phrase := ⟨"  Test Cases:", "  测试用例："⟩

def stepsHeading : Phrase := ⟨"  Steps:", "  步骤："⟩

def totalCount (count : Nat) : Phrase := ⟨s!"    Total: {count}", s!"    总数：{count}"⟩

def passedCount (count : Nat) : Phrase := ⟨s!"    ✅ Passed: {count}", s!"    ✅ 通过：{count}"⟩

def failedCount (count : Nat) : Phrase := ⟨s!"    ❌ Failed: {count}", s!"    ❌ 失败：{count}"⟩

def passedShare (count : Nat) (share : String) : Phrase :=
  ⟨s!"    ✅ Passed: {count} ({share}%)", s!"    ✅ 通过：{count}（{share}%）"⟩

def failedShare (count : Nat) (share : String) : Phrase :=
  ⟨s!"    ❌ Failed: {count} ({share}%)", s!"    ❌ 失败：{count}（{share}%）"⟩

def successRate (rate : String) : Phrase := ⟨s!"    Success Rate: {rate}%", s!"    成功率：{rate}%"⟩

def detailsTitle : Phrase := ⟨"🧪 TEST CASE DETAILS", "🧪 测试用例详情"⟩

def statusPassed : Phrase := ⟨"✅ PASSED", "✅ 通过"⟩

def statusFailed : Phrase := ⟨"❌ FAILED", "❌ 失败"⟩

def caseStatus (status : Phrase) : Phrase := ⟨s!"Status: {status.en}", s!"状态：{status.zhCN}"⟩

def caseDuration (duration : String) : Phrase := ⟨s!"Duration: {duration}", s!"耗时：{duration}"⟩

def caseSteps (total passed failed : Nat) : Phrase :=
  ⟨s!"Steps: {total} (✅ {passed} / ❌ {failed})", s!"步骤：{total}（✅ {passed} / ❌ {failed}）"⟩

def failedAt (step : Nat) : Phrase := ⟨s!"❌ FAILED AT STEP {step}", s!"❌ 失败于步骤 {step}"⟩

def failedStepsHeading : Phrase := ⟨"Failed Steps:", "失败的步骤："⟩

def failedStep (step : Nat) (description : String) : Phrase :=
  ⟨s!"Step {step}: {description}", s!"步骤 {step}：{description}"⟩

def failedAction (action : String) : Phrase := ⟨s!"Action: {action}", s!"动作：{action}"⟩

def failedError (error : String) : Phrase := ⟨s!"Error: {error}", s!"错误：{error}"⟩

def allTestsPassed : Phrase := ⟨"🎉 ALL TESTS PASSED! 🎉", "🎉 全部测试通过！🎉"⟩

def someTestsFailed (count : Nat) : Phrase :=
  ⟨s!"⚠️  {count} TEST(S) FAILED", s!"⚠️  {count} 个测试失败"⟩

def overallRate (rate : String) : Phrase :=
  ⟨s!"Overall Success Rate: {rate}%", s!"总体成功率：{rate}%"⟩

def savedJson (path : String) : Phrase :=
  ⟨s!"📄 JSON summary saved: {path}", s!"📄 JSON 摘要已保存：{path}"⟩

def savedHtml (path : String) : Phrase :=
  ⟨s!"📄 HTML summary saved: {path}", s!"📄 HTML 摘要已保存：{path}"⟩

/-! ### Summary page -/

def pageTitle (date : String) : Phrase := ⟨s!"Execution Summary - {date}", s!"执行摘要 - {date}"⟩

def pageHeader : Phrase := ⟨"🎯 Test Execution Summary", "🎯 测试执行摘要"⟩

def pageDetails : Phrase := ⟨"Test Case Details", "测试用例详情"⟩

def durationLabel : Phrase := ⟨"Duration:", "耗时："⟩

def stepsLabel : Phrase := ⟨"Steps:", "步骤："⟩

def screenshotsFolder : Phrase := ⟨"📁 View Screenshots Folder", "📁 查看截图文件夹"⟩

def failedAtLabel (step : Nat) : Phrase := ⟨s!"❌ Failed at Step {step}:", s!"❌ 失败于步骤 {step}："⟩

def noErrorMessage : Phrase := ⟨"No error message available", "没有可用的错误信息"⟩

def errorLabel : Phrase := ⟨"Error:", "错误："⟩

def viewScreenshot : Phrase := ⟨"📸 View", "📸 查看"⟩

def totalCasesCard : Phrase := ⟨"Total Test Cases", "测试用例总数"⟩

def passedCard : Phrase := ⟨"Passed", "通过"⟩

def failedCard : Phrase := ⟨"Failed", "失败"⟩

def totalStepsCard : Phrase := ⟨"Total Steps", "步骤总数"⟩

def successRateCard : Phrase := ⟨"Success Rate", "成功率"⟩

def stepColumn : Phrase := ⟨"Step #", "步骤 #"⟩

def actionColumn : Phrase := ⟨"Action Type", "动作类型"⟩

def descriptionColumn : Phrase := ⟨"Description", "描述"⟩

def screenshotColumn : Phrase := ⟨"Screenshot", "截图"⟩

def statusColumn : Phrase := ⟨"Status", "状态"⟩

/-! ### Analytics -/

def analyzing (path : String) : Phrase :=
  ⟨s!"🔍 Analyzing screenshots under {path}...", s!"🔍 正在分析 {path} 下的截图..."⟩

def noScreenshotDirectory (path : String) : Phrase :=
  ⟨s!"Screenshot directory not found: {path}", s!"未找到截图目录：{path}"⟩

def noExecutions : Phrase := ⟨"No test executions found to analyze", "没有找到可分析的测试执行"⟩

def workbookUnavailable (path : String) : Phrase :=
  ⟨s!"Workbook {path} unavailable; step descriptions will show N/A",
    s!"工作簿 {path} 不可用；步骤描述将显示为 N/A"⟩

def foundExecutions (count : Nat) : Phrase :=
  ⟨s!"✅ Found {count} execution(s) to analyze", s!"✅ 找到 {count} 次执行"⟩

def reportGenerated (path : String) : Phrase :=
  ⟨s!"✅ Report generated: {path}", s!"✅ 报告已生成：{path}"⟩

def analyticsTitle : Phrase := ⟨"📊 Test Execution Analytics Report", "📊 测试执行分析报告"⟩

def analyticsSubtitle : Phrase := ⟨"Analysis of automated test executions", "自动化测试执行分析"⟩

def latestExecution (date : String) : Phrase :=
  ⟨s!"Latest Execution: {date}", s!"最近一次执行：{date}"⟩

def analyzedCases : Phrase := ⟨"Total Test Cases", "测试用例总数"⟩

def analyzedPassed : Phrase := ⟨"Passed Test Cases", "通过的测试用例"⟩

def analyzedFailed : Phrase := ⟨"Failed Test Cases", "失败的测试用例"⟩

def analyzedSteps : Phrase := ⟨"Total Steps Executed", "已执行步骤总数"⟩

def analyzedSuccessful : Phrase := ⟨"Successful Steps", "成功的步骤"⟩

def analyzedRate : Phrase := ⟨"Overall Success Rate", "总体成功率"⟩

def successShare (share : String) : Phrase := ⟨s!"{share}% success rate", s!"成功率 {share}%"⟩

def failureShare (share : String) : Phrase := ⟨s!"{share}% failure rate", s!"失败率 {share}%"⟩

def topActions : Phrase := ⟨"Top 10 Most Used Actions", "最常用的 10 个动作"⟩

def analyzedDetails : Phrase := ⟨"🧪 Detailed Test Case Results", "🧪 测试用例详细结果"⟩

def caseCounts (total completed failed : Nat) (rate : String) : Phrase :=
  ⟨s!"Steps: {total} · Completed: {completed} · Failed: {failed} · Success rate: {rate}%",
    s!"步骤：{total} · 完成：{completed} · 失败：{failed} · 成功率：{rate}%"⟩

def success : Phrase := ⟨"Success", "成功"⟩

def generatedOn (moment : String) : Phrase := ⟨s!"Generated on {moment}", s!"生成时间 {moment}"⟩

def executionsAnalyzed (count : Nat) : Phrase :=
  ⟨s!"Total executions analyzed: {count}", s!"已分析的执行次数：{count}"⟩

end StepSheet.Phrase
