import StepSheet.Phrase.Basic

/-!
# Texts of the command line

The descriptions of the commands and of their options, and what the command
that sets up a directory tells.
-/

namespace StepSheet.Phrase

def about : Phrase :=
  ⟨"Table-driven browser test runner: executes workbook rows against a WebDriver session.",
    "表格驱动的浏览器测试运行器：通过 WebDriver 会话执行工作簿中的步骤行。"⟩

def langOption : Phrase :=
  ⟨"Language for output messages (e.g. en, zh-CN)", "输出消息的语言（例如 en、zh-CN）"⟩

def verboseOption : Phrase := ⟨"Print diagnostic logs to stderr", "将诊断日志输出到标准错误"⟩

def configOption : Phrase := ⟨"Path to the runner configuration file", "运行器配置文件路径"⟩

def workbookOption : Phrase :=
  ⟨"Workbook (.toml or .json) holding the test sheets", "包含测试工作表的工作簿（.toml 或 .json）"⟩

def sheetStartOption : Phrase :=
  ⟨"Only sheets starting with this prefix are run", "只运行以此前缀开头的工作表"⟩

def screenshotsOption : Phrase := ⟨"Root directory of the screenshot tree", "截图树的根目录"⟩

def summaryDirOption : Phrase :=
  ⟨"Directory receiving the JSON and HTML summaries", "接收 JSON 和 HTML 摘要的目录"⟩

def webdriverUrlOption : Phrase :=
  ⟨"URL of a running WebDriver server", "正在运行的 WebDriver 服务器地址"⟩

def headlessOption : Phrase := ⟨"Run the browser without a visible window", "以无界面模式运行浏览器"⟩

def outputOption : Phrase := ⟨"Directory receiving the analytics report", "接收分析报告的目录"⟩

def nonInteractiveOption : Phrase :=
  ⟨"Write the default files without launching the interactive wizard", "不启动交互式向导，直接写入默认文件"⟩

def runAbout : Phrase := ⟨"Run every selected test case", "运行所有选中的测试用例"⟩

def analyzeAbout : Phrase :=
  ⟨"Build an analytics report from the screenshot tree", "根据截图树生成分析报告"⟩

def initAbout : Phrase := ⟨"Create a configuration file and a sample workbook", "创建配置文件和示例工作簿"⟩

def languageDetected (lang : String) : Phrase :=
  ⟨s!"Detected system language: {lang}", s!"检测到系统语言：{lang}"⟩

def welcome : Phrase := ⟨"Welcome to the Grid Runner setup wizard!", "欢迎使用 Grid Runner 设置向导！"⟩

def wizardDescription : Phrase :=
  ⟨"This creates GridRunner.toml and a sample workbook to start from.",
    "这将创建 GridRunner.toml 和一个示例工作簿。"⟩

def answerFailed : Phrase := ⟨"Failed to read your answer", "读取您的回答失败"⟩

def writeFailed (path : String) : Phrase := ⟨s!"Failed to write {path}", s!"写入 {path} 失败"⟩

def created (path : String) : Phrase := ⟨s!"Created {path}", s!"已创建 {path}"⟩

def sampleExists (path : String) : Phrase :=
  ⟨s!"{path} already exists; sample workbook not written", s!"{path} 已存在；未写入示例工作簿"⟩

def usageHint : Phrase :=
  ⟨"Start a WebDriver server (e.g. chromedriver --port=9515), then run: grid-runner run",
    "启动 WebDriver 服务器（例如 chromedriver --port=9515），然后运行：grid-runner run"⟩

end StepSheet.Phrase
