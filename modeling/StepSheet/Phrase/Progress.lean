import StepSheet.Phrase.Basic

/-!
# Progress notices

What a run tells while it goes on: about the plan, the test cases, their steps,
and what each step has done.
-/

namespace StepSheet.Phrase

/-! ### Test cases -/

def foundCases (count : Nat) (names : String) : Phrase :=
  ⟨s!"Found {count} test case(s): {names}", s!"找到 {count} 个测试用例：{names}"⟩

def loadingWorkbook (path : String) : Phrase :=
  ⟨s!"Loading workbook: {path}", s!"正在加载工作簿：{path}"⟩

def sessionFailed (url : String) : Phrase :=
  ⟨s!"Could not start a WebDriver session at {url}", s!"无法在 {url} 启动 WebDriver 会话"⟩

def caseStarts (name : String) : Phrase := ⟨s!"▶ Test case: {name}", s!"▶ 测试用例：{name}"⟩

def readingSteps (count : Nat) (name : String) : Phrase :=
  ⟨s!"Reading {count} step(s) from sheet '{name}'", s!"从工作表 '{name}' 读取了 {count} 个步骤"⟩

def allStepsExecuted (count : Nat) (name : String) : Phrase :=
  ⟨s!"All {count} step(s) of '{name}' executed", s!"'{name}' 的全部 {count} 个步骤已执行"⟩

def casePassed (name : String) : Phrase := ⟨s!"✅ {name} passed", s!"✅ {name} 通过"⟩

def caseFailed (name error : String) : Phrase :=
  ⟨s!"❌ {name} failed: {error}", s!"❌ {name} 失败：{error}"⟩

def cancelledRemaining (count : Nat) : Phrase :=
  ⟨s!"Run cancelled; {count} test case(s) not started", s!"运行已取消；{count} 个测试用例未开始"⟩

def failedCases (count : Nat) : Phrase := ⟨s!"{count} test case(s) failed", s!"{count} 个测试用例失败"⟩

def allCasesPassed : Phrase := ⟨"All test cases passed.", "所有测试用例均已通过。"⟩

/-! ### Steps -/

def executing (step : Nat) (description : String) : Phrase :=
  ⟨s!"Step {step}: {description}", s!"步骤 {step}：{description}"⟩

def completed (step : Nat) (detail : Phrase) : Phrase :=
  ⟨s!"  ✓ Step {step}: {detail.en}", s!"  ✓ 步骤 {step}：{detail.zhCN}"⟩

def stepFailed (step : Nat) (error : String) : Phrase :=
  ⟨s!"  ✗ Step {step} failed: {error}", s!"  ✗ 步骤 {step} 失败：{error}"⟩

def screenshotTaken (step : Nat) (path : String) : Phrase :=
  ⟨s!"  📸 Step {step} screenshot: {path}", s!"  📸 步骤 {step} 截图：{path}"⟩

def moduleExpanded (name : String) (count : Nat) : Phrase :=
  ⟨s!"  ↳ Module '{name}' expanded into {count} step(s)", s!"  ↳ 模块 '{name}' 展开为 {count} 个步骤"⟩

/-! ### What a step has done -/

def opened (url : String) : Phrase := ⟨s!"opened {url}", s!"已打开 {url}"⟩

def waited (millis : Nat) : Phrase := ⟨s!"waited {millis}ms", s!"已等待 {millis} 毫秒"⟩

def pageClosed : Phrase := ⟨"page closed", "页面已关闭"⟩

def fullPageTaken : Phrase := ⟨"full-page screenshot taken", "已截取整页截图"⟩

def fullPageSaved (path : String) : Phrase :=
  ⟨s!"full-page screenshot saved to {path}", s!"整页截图已保存到 {path}"⟩

def filled : Phrase := ⟨"filled field", "已填写字段"⟩

def clicked : Phrase := ⟨"clicked", "已点击"⟩

def doubleClicked : Phrase := ⟨"double-clicked", "已双击"⟩

def cleared : Phrase := ⟨"field cleared", "字段已清空"⟩

def selectedOption (label : String) : Phrase :=
  ⟨s!"selected option '{label}'", s!"已选择选项 '{label}'"⟩

def hovered : Phrase := ⟨"hovered", "已悬停"⟩

def rightClicked : Phrase := ⟨"right-clicked", "已右键点击"⟩

def pressedKey (key : String) : Phrase := ⟨s!"pressed key '{key}'", s!"已按下按键 '{key}'"⟩

def checked : Phrase := ⟨"checkbox checked", "复选框已勾选"⟩

def unchecked : Phrase := ⟨"checkbox unchecked", "复选框已取消勾选"⟩

def uploaded (file : String) : Phrase := ⟨s!"uploaded '{file}'", s!"已上传 '{file}'"⟩

def radioSelected : Phrase := ⟨"radio button selected", "单选按钮已选中"⟩

def radioDeselected : Phrase := ⟨"radio button deselected", "单选按钮已取消选中"⟩

def isVisible : Phrase := ⟨"element is visible", "元素可见"⟩

def isHidden : Phrase := ⟨"element is hidden", "元素已隐藏"⟩

def isEnabled : Phrase := ⟨"element is enabled", "元素已启用"⟩

def isDisabled : Phrase := ⟨"element is disabled", "元素已禁用"⟩

def isEmpty : Phrase := ⟨"element is empty", "元素为空"⟩

def moduleCompleted (name : String) : Phrase :=
  ⟨s!"module '{name}' completed", s!"模块 '{name}' 已完成"⟩

end StepSheet.Phrase
