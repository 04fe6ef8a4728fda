import StepSheet.Config.Basic
import StepSheet.Run.World
import StepSheet.Text.Base64
import StepSheet.WebDriver.Element

/-!
# Sessions

A session is opened at a server for one browser and shows one page at a time. When
the page is closed there is nothing to take a screenshot of, until the next test
case is prepared by a new page.
-/

namespace StepSheet.WebDriver

/-- The arguments that start a browser without a window. -/
def headlessOptions : List (String × Data) :=
  let arguments (args : List String) : Data := .object [("args", .array (args.map .text))]
  [("goog:chromeOptions", arguments ["--headless=new", "--window-size=1280,1024"]),
    ("ms:edgeOptions", arguments ["--headless=new"]),
    ("moz:firefoxOptions", arguments ["-headless"])]

/-- What a session is asked to be. -/
def capabilities (config : BrowserConfig) : Data :=
  .object (("browserName", .text config.browser) ::
    if config.headless then headlessOptions else [])

/-- A URL without slashes at its end. -/
def baseOf (url : String) : String :=
  String.ofList (url.toList.reverse.dropWhile (· = '/')).reverse

namespace Session

/-- A new session at the server that a configuration names. `timeout` bounds looking for
elements. -/
def start (W : Wire τ) (config : BrowserConfig) (timeout : Nat) : Talk τ Session := do
  let base := baseOf config.url
  let value ← ask W .post (base ++ "/session")
    (some (.object [("capabilities", .object [("alwaysMatch", capabilities config)])]))
  let id ← expect "sessionId" "invalid session response" value
  let session : Session :=
    { base, id, timeout, browser := String.ofList (Chars.lower config.browser.toList)
      pageClosed := false }
  let _ ← session.command W .post "timeouts"
    (some (.object [("implicit", .integer config.implicitWait)]))
  return session

def quit (W : Wire τ) (session : Session) : Talk τ Unit := do
  let _ ← ask W .delete (session.base ++ "/session/" ++ session.id) none

/-- A new page, if the last one is closed. -/
def prepare (W : Wire τ) (session : Session) : Talk τ Session := do
  if session.pageClosed then
    let created ← session.command W .post "window/new" (some (.object [("type", .text "tab")]))
    let handle ← expect "handle" "invalid new window response" created
    let _ ← session.command W .post "window" (some (.object [("handle", .text handle)]))
    return { session with pageClosed := false }
  else return session

/-- The page at a URL. -/
def goto (W : Wire τ) (session : Session) (url : String) : Talk τ Unit := do
  let _ ← session.command W .post "url" (some (.object [("url", .text url)]))

def closePage (W : Wire τ) (session : Session) : Talk τ Session := do
  let _ ← session.command W .delete "window" none
  return { session with pageClosed := true }

/-- A screenshot of the page. Only one of the browsers has one of the full page. -/
def screenshot (W : Wire τ) (session : Session) (fullPage : Bool) : Talk τ Bytes := do
  if session.pageClosed then throw .pageClosed
  let path := if fullPage && session.browser = "firefox" then "moz/screenshot/full"
    else "screenshot"
  let encoded ← session.command W .get path none
  match encoded with
  | .text encoded =>
    match Base64.decode (Text.bytes encoded) with
    | .ok image => return image
    | .error error => throw (.transport s!"screenshot is not valid base64: {error.message}")
  | _ => throw (.protocol "invalid screenshot response" (Json.render encoded))

/-- A primitive of the browser, and the session after it. -/
def carryOut (W : Wire τ) (session : Session) : Command → Talk τ Session
  | .prepare => session.prepare W
  | .goto url => do
    session.goto W url
    return session
  | .wait millis => do
    modify (W.pause millis)
    return session
  | .closePage => session.closePage W
  | .perform locator op => do
    session.perform W locator op
    return session
  | .check locator assertion timeout => do
    session.check W locator assertion timeout
    return session

end Session

/-- The browser behind a session, whose state is the session and the outside. A primitive
that fails leaves the session as it is. -/
def browser (W : Wire τ) : Browser (Session × τ) where
  command c state :=
    match (state.1.carryOut W c).result state.2 with
    | (.ok session, outside) => (.ok (), session, outside)
    | (.error error, outside) => (.error error, state.1, outside)
  screenshot fullPage state :=
    let (result, outside) := (state.1.screenshot W fullPage).result state.2
    (result, state.1, outside)

end StepSheet.WebDriver
