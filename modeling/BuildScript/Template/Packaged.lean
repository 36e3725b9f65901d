import BuildScript.Template.Reading

/-! # Packaged templates

The header and the footer that stand around a script unless others are asked for. The header
defines the helpers that a script calls, and runs the commands of the exit hook in a trap.
-/

namespace BuildScript.Template

/-- The header up to the number of its version. -/
def headerStart : String := Text.joinLines [
  "#!/bin/bash",
  "# Generated by cibuild "]

/-- The helpers up to the retry loop. -/
def headerHelpers : String := Text.joinLines [
  ". Do not edit.",
  "",
  "ANSI_RED=\"\\033[31;1m\"",
  "ANSI_GREEN=\"\\033[32;1m\"",
  "ANSI_YELLOW=\"\\033[33;1m\"",
  "ANSI_RESET=\"\\033[0m\"",
  "ANSI_CLEAR=\"\\033[0K\"",
  "",
  "export CIBUILD_TEST_RESULT=",
  "export CIBUILD_BUILD_DIR=\"$\x7bCIBUILD_BUILD_DIR:-$HOME/build\x7d\"",
  "",
  "cibuild_terminate() \x7b",
  "  exit $1",
  "\x7d",
  "",
  "cibuild_assert() \x7b",
  "  local result=$\x7b1:-$?\x7d",
  "  if [ $result -ne 0 ]; then",
  "    echo -e \"\\n$\x7bANSI_RED\x7dThe command failed and exited with $result.$\x7bANSI_RESET\x7d\\n\\nYour build has been stopped.\"",
  "    cibuild_terminate $result",
  "  fi",
  "\x7d",
  "",
  "cibuild_result() \x7b",
  "  local result=$1",
  "  export CIBUILD_TEST_RESULT=$(( $\x7bCIBUILD_TEST_RESULT:-0\x7d | $(($result != 0)) ))",
  "  if [ $result -eq 0 ]; then",
  "    echo -e \"\\n$\x7bANSI_GREEN\x7dThe command exited with $result.$\x7bANSI_RESET\x7d\"",
  "  else",
  "    echo -e \"\\n$\x7bANSI_RED\x7dThe command exited with $result.$\x7bANSI_RESET\x7d\"",
  "  fi",
  "\x7d",
  "",
  "cibuild_retry() \x7b",
  "  local result=0",
  "  local count=1",
  "  while [ $count -le "]

/-- What a retry prints, up to the number of attempts. -/
def headerAttempt : String := Text.joinLines [
  " ]; do",
  "    [ $result -ne 0 ] && \x7b",
  "      echo -e \"\\n$\x7bANSI_RED\x7dThe command failed. Retrying, $count of "]

/-- What is printed when the attempts are used up. -/
def headerGivenUp : String := Text.joinLines [
  ".$\x7bANSI_RESET\x7d\\n\" >&2",
  "    \x7d",
  "    \"$@\"",
  "    result=$?",
  "    [ $result -eq 0 ] && break",
  "    count=$(($count + 1))",
  "    sleep 1",
  "  done",
  "  [ $count -gt "]

/-- The end of the message that no attempt succeeded. -/
def headerFailure : String := Text.joinLines [
  " ] && \x7b",
  "    echo -e \"\\n$\x7bANSI_RED\x7dThe command failed "]

/-- The remaining helpers up to the body of the exit hook. -/
def headerTimers : String := Text.joinLines [
  " times.$\x7bANSI_RESET\x7d\\n\" >&2",
  "  \x7d",
  "  return $result",
  "\x7d",
  "",
  "cibuild_nanoseconds() \x7b",
  "  local cmd=\"date\"",
  "  local format=\"+%s%N\"",
  "  if hash gdate > /dev/null 2>&1; then",
  "    cmd=\"gdate\"",
  "  elif [[ \"$(uname)\" = Darwin ]]; then",
  "    format=\"+%s000000000\"",
  "  fi",
  "  $cmd -u $format",
  "\x7d",
  "",
  "cibuild_time_start() \x7b",
  "  cibuild_timer_id=$(printf %08x $(( RANDOM * RANDOM )))",
  "  cibuild_start_time=$(cibuild_nanoseconds)",
  "  echo -en \"cibuild_time:start:$cibuild_timer_id\\r$\x7bANSI_CLEAR\x7d\"",
  "\x7d",
  "",
  "cibuild_time_finish() \x7b",
  "  local result=$?",
  "  cibuild_end_time=$(cibuild_nanoseconds)",
  "  local duration=$(($cibuild_end_time - $cibuild_start_time))",
  "  echo -en \"\\ncibuild_time:end:$cibuild_timer_id:start=$cibuild_start_time,finish=$cibuild_end_time,duration=$duration\\r$\x7bANSI_CLEAR\x7d\"",
  "  return $result",
  "\x7d",
  "",
  "cibuild_fold() \x7b",
  "  local action=$1",
  "  local name=$2",
  "  echo -en \"cibuild_fold:$\x7baction\x7d:$\x7bname\x7d\\r$\x7bANSI_CLEAR\x7d\"",
  "\x7d",
  "",
  "cibuild_finish() \x7b",
  ""]

/-- The header after the body of the exit hook. -/
def headerEnd : String := Text.joinLines [
  "\x7d",
  "",
  "trap cibuild_finish EXIT",
  "",
  "mkdir -p \"$CIBUILD_BUILD_DIR\"",
  "cd \"$CIBUILD_BUILD_DIR\""]

def header : List Part := [
  .text headerStart,
  .value "version",
  .text headerHelpers,
  .value "retry_attempts",
  .text headerAttempt,
  .value "retry_attempts",
  .text headerGivenUp,
  .value "retry_attempts",
  .text headerFailure,
  .value "retry_attempts",
  .text headerTimers,
  .choice "finish" [.value "finish", .text "\n"] [.text "  :\n"],
  .text headerEnd]

/-- The footer: the result of the build, which is also its exit status. -/
def footerText : String := Text.joinLines [
  "",
  "echo -e \"\\nDone. Your build exited with $\x7bCIBUILD_TEST_RESULT:-0\x7d.\"",
  "cibuild_terminate $\x7bCIBUILD_TEST_RESULT:-0\x7d"]

def footer : List Part := [.text footerText]

/-- Renders the packaged templates. -/
def packaged : Renderer := fun name context =>
  if path? name = some "header.sh.j2" then renderAll context header
  else if path? name = some "footer.sh.j2" then renderAll context footer
  else .error .notFound

end BuildScript.Template
