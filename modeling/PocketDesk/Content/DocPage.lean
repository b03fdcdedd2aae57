/-! The documentation pages of the terminal, each under the verb that prints it. Their
text is markup. -/

namespace PocketDesk

inductive DocPage where
  | help
  | whoami
  | education
  | achievements
  | experience
  | goals
  deriving DecidableEq, Repr

namespace DocPage

/-- All pages, in the order in which they are offered. -/
def all : List DocPage := [.help, .whoami, .education, .achievements, .experience, .goals]

def key : DocPage → String
  | .help => "help"
  | .whoami => "whoami"
  | .education => "ed"
  | .achievements => "ac"
  | .experience => "xp"
  | .goals => "go"

def ofKey? (key : String) : Option DocPage := all.find? (·.key = key)

theorem ofKey?_key (p : DocPage) : ofKey? p.key = some p := by cases p <;> decide

theorem key_of_ofKey? {key : String} {p : DocPage} (h : ofKey? key = some p) : p.key = key := by
  simpa using List.find?_some h

/-- Every line of a page ends with a line feed. -/
def ofLines (lines : List String) : String := String.join (lines.map (· ++ "\n"))

def body : DocPage → String
  | .help => ofLines
      [ "<span class=\"text-hacker-green\">Available commands:</span><br>"
      , "<span class=\"ml-4\">whoami</span> - About Me<br>"
      , "<span class=\"ml-4\">ed</span> - Education<br>"
      , "<span class=\"ml-4\">ac</span> - Achievements, Awards, and Recognitions<br>"
      , "<span class=\"ml-4\">xp</span> - Experience<br>"
      , "<span class=\"ml-4\">go</span> - Short-Term and Long-Term Goals<br>"
      , "<span class=\"ml-4\">ls</span> - List files<br>"
      , "<span class=\"ml-4\">cd [dir]</span> - Change directory<br>"
      , "<span class=\"ml-4\">open [file]</span> - Open a file<br>"
      , "<span class=\"ml-4\">matrix</span> - Toggle the Matrix effect<br>"
      , "<span class=\"ml-4\">clear</span> - Clear terminal<br>"
      , "<span class=\"ml-4\">exit</span> - Close terminal<br>" ]
  | .whoami => ofLines
      [ "<span class=\"font-bold text-yellow-500\">&gt;&gt; ABOUT ME</span><br>"
      , "I am Angelo Laus, but you can call me \"Gelo\". I graduated from the Science, Technology, Engineering, and Mathematics with a Specialization in Information Technology (STEM-IT) strand at Asia Pacific College, Makati City.<br><br>"
      , "I am a Notion Campus Leader and the Director of External Relations at JPCS-APC.<br>" ]
  | .education => ofLines
      [ "<span class=\"font-bold text-blue-400\">&gt;&gt; EDUCATION</span><br>"
      , "<span class=\"font-bold text-green-400\">Senior High School</span><br>"
      , "Science, Technology, Engineering, and Mathematics with a Specialization in Information Technology (STEM-IT)<br>"
      , "Asia Pacific College, Makati City<br><br>"
      , "<span class=\"font-bold text-green-400\">College</span><br>"
      , "Bachelor of Science in Computer Science Specialized in Cyber Security and Forensics<br>"
      , "Asia Pacific College, Makati City<br>" ]
  | .achievements => ofLines
      [ "<span class=\"font-bold text-blue-400\">&gt;&gt; ACHIEVEMENTS</span><br>"
      , "<span class=\"font-bold text-green-400\">Certifications</span><br>"
      , "- Certified Cyber Security Analyst (C3SA) - 2025<br>"
      , "- Certified Red Team Operations Management (CRTOM) - 2025<br>"
      , "- Certified Cybersecurity Educator Professional (CCEP) - 2025<br>"
      , "- Certified Phishing Prevention Specialist (CPPS) - 2025<br><br>"
      , "<span class=\"font-bold text-green-400\">Awards and Recognitions</span><br>"
      , "- HackForGov 2025 Capture the Flag Philippines Champion<br>"
      , "- HackForGov 2025 Capture the Flag NCR Champion<br>"
      , "- HackForGov 2024 Capture the Flag NCR 2nd Runner-Up<br>" ]
  | .experience => ofLines
      [ "<span class=\"font-bold text-blue-400\">&gt;&gt; LEADERSHIP EXPERIENCE</span><br>"
      , "<span class=\"font-bold text-green-400\">Notion Campus Leader</span><br>"
      , "Notion (Remote)<br><br>"
      , "<span class=\"font-bold text-green-400\">Vice President of External Growth and Expansion</span><br>"
      , "CyberPH (Hybrid)<br><br>"
      , "<span class=\"font-bold text-green-400\">Director of External Relations</span><br>"
      , "JPCS-APC (Hybrid)<br><br>"
      , "<span class=\"font-bold text-blue-400\">&gt;&gt; IT EXPERIENCE</span><br>"
      , "- Event QR Registration System (Web Application)<br>"
      , "- Rangya E-Commerce System (Web Application)<br>"
      , "- Doon Ride-Hailing Comparison System (Web Application)<br>" ]
  | .goals => ofLines
      [ "<span class=\"font-bold text-blue-400\">&gt;&gt; SHORT-TERM AND LONG-TERM GOALS</span><br>"
      , "<span class=\"font-bold text-green-400\">Short-Term Goals</span><br>"
      , "- Graduate with a Summa Cum Laude Honor<br>"
      , "- Attend ROOTCON<br><br>"
      , "<span class=\"font-bold text-green-400\">Long-Term Goals</span><br>"
      , "- Become a Chief Information Security Officer (CISO)<br>" ]

end DocPage

end PocketDesk
