/-!
# Built-in templates

The templates a site falls back on when its template directory lacks one (or there is no
directory): the page frame `base.html`, the two page stubs that include it, and the partials
under `partials/`. `Template.builtin?` finds one by its exact name.
-/

namespace Courseware.Template.Builtin

/-- The page frame: head with styles, header, main content, footer and scripts. -/
def base : String :=
  "\n".intercalate [
    "<!doctype html>",
    "<html>",
    "<head>",
    "  <meta charset=\"utf-8\">",
    "  <meta name=\"viewport\" content=\"width=device-width,initial-scale=1\">",
    "  <title>\x7b\x7b title \x7d\x7d</title>",
    "  \x7b\x7b> styles \x7d\x7d",
    "</head>",
    "<body data-course-id=\"\x7b\x7b course_id \x7d\x7d\" data-total-lessons=\"\x7b\x7b total_lessons \x7d\x7d\">",
    "  \x7b\x7b> header \x7d\x7d",
    "  <main>",
    "    <div class=\"container\">",
    "      \x7b\x7b content \x7d\x7d",
    "    </div>",
    "  </main>",
    "  \x7b\x7b> footer \x7d\x7d",
    "  \x7b\x7b> scripts \x7d\x7d",
    "</body>",
    "</html>"]

def index : String :=
  "\n".intercalate [
    "\x7b\x7b> base \x7d\x7d",
    ""]

def lesson : String :=
  "\n".intercalate [
    "\x7b\x7b> base \x7d\x7d",
    ""]

def header : String :=
  "\n".intercalate [
    "<header>",
    "  <div class=\"container\">",
    "    \x7b\x7b header_content \x7d\x7d",
    "  </div>",
    "</header>"]

def footer : String :=
  "\n".intercalate [
    "<footer>",
    "  <div class=\"container\">",
    "    <div class=\"small\">Generated by TML Parser v0.1</div>",
    "  </div>",
    "</footer>"]

def styles : String :=
  "\n".intercalate [
    "<style>",
    ":root\x7b--accent:#1f6feb;\x7d",
    "*\x7bbox-sizing:border-box\x7d",
    "body\x7bfont-family:system-ui,-apple-system,Segoe UI,Roboto,Ubuntu,Arial,sans-serif;line-height:1.6;margin:0;padding:0;background:#0e1116;color:#c9d1d9\x7d",
    "a\x7bcolor:var(--accent);text-decoration:none\x7d",
    "a:hover\x7btext-decoration:underline\x7d",
    "header,footer\x7bbackground:#0b0e14;padding:1rem 1.25rem;border-bottom:1px solid #161b22\x7d",
    ".container\x7bmax-width:980px;margin:0 auto;padding:1.25rem\x7d",
    ".card\x7bbackground:#0b0e14;border:1px solid #161b22;border-radius:12px;padding:1rem;margin:1rem 0\x7d",
    ".btn\x7bdisplay:inline-block;padding:.5rem .9rem;border:1px solid #30363d;border-radius:8px;background:#161b22;color:#c9d1d9;cursor:pointer\x7d",
    ".btn:hover\x7bbackground:#1b2330\x7d",
    ".progress\x7bwidth:100%;height:10px;background:#161b22;border-radius:999px;overflow:hidden;border:1px solid #30363d\x7d",
    ".progress > span\x7bdisplay:block;height:100%;background:var(--accent);width:0%\x7d",
    ".badge\x7bdisplay:inline-block;background:#161b22;border:1px solid #30363d;padding:.2rem .5rem;border-radius:999px;margin-right:.25rem\x7d",
    ".quiz\x7bmargin-top:1rem\x7d",
    ".quiz .q\x7bmargin:.5rem 0;padding:.75rem;border:1px dashed #30363d;border-radius:8px\x7d",
    "code\x7bbackground:#161b22;border:1px solid #30363d;border-radius:6px;padding:.1rem .3rem\x7d",
    "ul\x7bmargin:.25rem 0 .75rem .9rem\x7d",
    "h1,h2,h3\x7bcolor:#e6edf3\x7d",
    ".small\x7bfont-size:.9rem;color:#8b949e\x7d",
    "footer\x7bborder-top:1px solid #161b22;border-bottom:0;margin-top:2rem\x7d",
    "kbd\x7bborder:1px solid #30363d;border-bottom-width:2px;padding:.1rem .25rem;border-radius:4px;background:#0b0e14\x7d",
    "</style>"]

/-- The scripts that keep progress and grade quizzes in the browser. -/
def scripts : String :=
  "\n".intercalate [
    "<script>",
    "const storeKey = (courseId) => `tml-progress::$\x7bcourseId\x7d`;",
    "function getProgress(courseId)\x7b",
    "  const raw = localStorage.getItem(storeKey(courseId));",
    "  return raw ? JSON.parse(raw) : \x7bcompletedLessons: \x7b\x7d, scores: \x7b\x7d\x7d;",
    "\x7d",
    "function setProgress(courseId, data)\x7b",
    "  localStorage.setItem(storeKey(courseId), JSON.stringify(data));",
    "\x7d",
    "function markLessonComplete(courseId, lessonId)\x7b",
    "  const p = getProgress(courseId);",
    "  p.completedLessons[lessonId] = true;",
    "  setProgress(courseId, p);",
    "  updateProgressBar(courseId);",
    "\x7d",
    "function saveScore(courseId, assessId, score)\x7b",
    "  const p = getProgress(courseId);",
    "  p.scores[assessId] = Math.max(p.scores[assessId]||0, score);",
    "  setProgress(courseId, p);",
    "  updateProgressBar(courseId);",
    "\x7d",
    "function updateProgressBar(courseId)\x7b",
    "  const p = getProgress(courseId);",
    "  const total = parseInt(document.body.dataset.totalLessons || \"0\");",
    "  const done = Object.keys(p.completedLessons).length;",
    "  const pct = total>0 ? Math.round((done/total)*100) : 0;",
    "  const el = document.querySelector('.progress > span');",
    "  if(el)\x7b el.style.width = pct + '%'; \x7d",
    "  const label = document.getElementById('progress-label');",
    "  if(label)\x7b label.textContent = pct + '% complete'; \x7d",
    "\x7d",
    "function checkQuiz(courseId, assessId)\x7b",
    "  const assessEl = document.querySelector(`[data-assessment='$\x7bassessId\x7d']`);",
    "  let total=0, correct=0;",
    "  assessEl.querySelectorAll('.q').forEach((q)=>\x7b",
    "    total++;",
    "    const type = q.dataset.type;",
    "    if(type==='mcq')\x7b",
    "      const chosen = q.querySelector('input[type=radio]:checked');",
    "      if(!chosen) return;",
    "      if(chosen.value === 'true') correct++;",
    "    \x7delse if(type==='msq')\x7b",
    "      let ok=true, any=false;",
    "      q.querySelectorAll('input[type=checkbox]').forEach(cb=>\x7b",
    "        any = any || cb.checked;",
    "        if((cb.value==='true') !== cb.checked)\x7b ok=false; \x7d",
    "      \x7d);",
    "      if(any && ok) correct++;",
    "    \x7delse if(type==='truefalse')\x7b",
    "      const chosen = q.querySelector('input[type=radio]:checked');",
    "      if(chosen && chosen.value === q.dataset.answer) correct++;",
    "    \x7d",
    "  \x7d);",
    "  const score = Math.round((correct/Math.max(total,1))*100);",
    "  saveScore(courseId, assessId, score);",
    "  const out = assessEl.querySelector('.quiz-result');",
    "  if(out)\x7b out.textContent = `Score: $\x7bscore\x7d% ($\x7bcorrect\x7d/$\x7bMath.max(total,1)\x7d)`; \x7d",
    "\x7d",
    "document.addEventListener('DOMContentLoaded', ()=>\x7b",
    "  const cid = document.body.dataset.courseId;",
    "  updateProgressBar(cid);",
    "\x7d);",
    "</script>"]

def indexHeader : String :=
  "\n".intercalate [
    "<h1>\x7b\x7b title \x7d\x7d</h1>",
    "<div class=\"small\">",
    "  <span class=\"badge\">Level: \x7b\x7b level \x7d\x7d</span>",
    "  <span class=\"badge\">Duration: \x7b\x7b duration \x7d\x7d</span>",
    "</div>",
    "<div class=\"progress\"><span></span></div>",
    "<div class=\"small\" id=\"progress-label\">0% complete</div>"]

def lessonHeader : String :=
  "\n".intercalate [
    "<div class=\"small\"><a href=\"index.html\">\x7b\x7b course_title \x7d\x7d</a> / \x7b\x7b module_title \x7d\x7d</div>",
    "<h1>\x7b\x7b lesson_title \x7d\x7d</h1>"]

def moduleCard : String :=
  "\n".intercalate [
    "<div class=\"card\">",
    "  <h2>\x7b\x7b mod_title \x7d\x7d</h2>",
    "  <ul>",
    "\x7b\x7b lessons \x7d\x7d",
    "  </ul>",
    "</div>"]

def lessonItem : String :=
  "<li><a href=\"\x7b\x7b lesson_file \x7d\x7d\">\x7b\x7b lesson_title \x7d\x7d</a> <span class=\"small\">\x7b\x7b duration \x7d\x7d</span></li>"

def slide : String :=
  "\n".intercalate [
    "<section class=\"card slide slide-\x7b\x7b slide_kind \x7d\x7d\" id=\"\x7b\x7b slide_id \x7d\x7d\" data-slide=\"\x7b\x7b slide_number \x7d\x7d\">",
    "  <div class=\"small slide-counter\">Slide \x7b\x7b slide_number \x7d\x7d / \x7b\x7b slide_total \x7d\x7d</div>",
    "  \x7b\x7b slide_body \x7d\x7d",
    "  <nav class=\"slide-nav\">\x7b\x7b slide_nav \x7d\x7d</nav>",
    "</section>"]

def activity : String :=
  "\n".intercalate [
    "<div class=\"activity\" data-activity=\"\x7b\x7b activity_id \x7d\x7d\">",
    "  <h2>Activity: \x7b\x7b activity_type \x7d\x7d</h2>",
    "  \x7b\x7b est_html \x7d\x7d",
    "  <div class=\"instructions\">\x7b\x7b instructions \x7d\x7d</div>",
    "  \x7b\x7b expected_html \x7d\x7d",
    "</div>"]

def workedExample : String :=
  "\n".intercalate [
    "<div class=\"activity worked-example\" data-activity=\"\x7b\x7b activity_id \x7d\x7d\">",
    "  <h2>Worked Example</h2>",
    "  \x7b\x7b est_html \x7d\x7d",
    "  <div class=\"explanation\">\x7b\x7b explanation \x7d\x7d</div>",
    "  <pre><code class=\"language-javascript\">\x7b\x7b code \x7d\x7d</code></pre>",
    "  \x7b\x7b takeaways_html \x7d\x7d",
    "</div>"]

def assessment : String :=
  "\n".intercalate [
    "<div class=\"quiz\" data-assessment=\"\x7b\x7b assess_id \x7d\x7d\" data-pass-score=\"\x7b\x7b pass_score \x7d\x7d\">",
    "  <h2>Assessment</h2>",
    "  <div class=\"small\">Pass score: \x7b\x7b pass_score \x7d\x7d%</div>",
    "  \x7b\x7b questions \x7d\x7d",
    "  <button class=\"btn\" onclick=\"checkQuiz('\x7b\x7b course_js \x7d\x7d','\x7b\x7b assess_js \x7d\x7d')\">Check Answers</button>",
    "  <div class=\"quiz-result small\"></div>",
    "</div>"]

def question : String :=
  "\n".intercalate [
    "<div class=\"q\" data-type=\"\x7b\x7b q_type \x7d\x7d\" data-points=\"\x7b\x7b points \x7d\x7d\">",
    "  <div><strong>Q\x7b\x7b q_index \x7d\x7d.</strong> \x7b\x7b stem \x7d\x7d</div>",
    "  \x7b\x7b choices \x7d\x7d",
    "</div>"]

def questionOpen : String :=
  "\n".intercalate [
    "<div class=\"q\" data-type=\"\x7b\x7b q_type \x7d\x7d\" data-points=\"\x7b\x7b points \x7d\x7d\">",
    "  <div><strong>Q\x7b\x7b q_index \x7d\x7d.</strong> \x7b\x7b prompt \x7d\x7d</div>",
    "  <textarea name=\"\x7b\x7b q_name \x7d\x7d\" rows=\"\x7b\x7b rows \x7d\x7d\" data-lang=\"\x7b\x7b lang \x7d\x7d\">\x7b\x7b starter \x7d\x7d</textarea>",
    "  \x7b\x7b solution_html \x7d\x7d",
    "</div>"]

def completion : String :=
  "\n".intercalate [
    "<h2>Lesson Complete</h2>",
    "<p>You have reached the end of <strong>\x7b\x7b lesson_title \x7d\x7d</strong>.</p>",
    "<div class=\"progress\"><span></span></div>",
    "<div class=\"small\" id=\"progress-label\">0% complete</div>",
    "<button class=\"btn\" onclick=\"markLessonComplete('\x7b\x7b course_js \x7d\x7d','\x7b\x7b lesson_js \x7d\x7d')\">Mark Lesson Complete</button>",
    "<p><a href=\"index.html\">Back to course</a></p>"]

end Courseware.Template.Builtin

namespace Courseware.Template

open Builtin

def builtins : List (String × String) := [
  ("base.html", base),
  ("index.html", index),
  ("lesson.html", lesson),
  ("partials/header.html", header),
  ("partials/footer.html", footer),
  ("partials/styles.html", styles),
  ("partials/scripts.html", scripts),
  ("partials/index_header.html", indexHeader),
  ("partials/lesson_header.html", lessonHeader),
  ("partials/module_card.html", moduleCard),
  ("partials/lesson_item.html", lessonItem),
  ("partials/slide.html", slide),
  ("partials/activity.html", activity),
  ("partials/worked_example.html", workedExample),
  ("partials/assessment.html", assessment),
  ("partials/question.html", question),
  ("partials/question_open.html", questionOpen),
  ("partials/completion.html", completion)]

def builtin? (name : String) : Option String :=
  (builtins.find? (·.1 == name)).map (·.2)

end Courseware.Template
