/-!
# The style of pages

The style sheet that every page carries in its head.
-/

namespace StepSheet.Report

def styleLines : List String :=
  ["* \x7b margin: 0; padding: 0; box-sizing: border-box; \x7d",
   "body \x7b font-family: 'Segoe UI', Tahoma, Geneva, Verdana, sans-serif; background: " ++
     "#f5f5f5; padding: 20px; \x7d",
   ".container \x7b max-width: 1200px; margin: 0 auto; background: white; border-radius: " ++
     "10px; box-shadow: 0 2px 10px rgba(0,0,0,0.1); overflow: hidden; \x7d",
   ".header \x7b background: linear-gradient(135deg, #667eea 0%, #764ba2 100%); color: " ++
     "white; padding: 30px; \x7d",
   ".header h1 \x7b font-size: 2em; margin-bottom: 10px; \x7d",
   ".stats \x7b display: grid; grid-template-columns: repeat(auto-fit, minmax(180px, " ++
     "1fr)); gap: 20px; padding: 30px; background: #f8f9fa; \x7d",
   ".stat-card \x7b background: white; padding: 20px; border-radius: 8px; box-shadow: 0 " ++
     "2px 5px rgba(0,0,0,0.1); text-align: center; \x7d",
   ".stat-value \x7b font-size: 2.2em; font-weight: bold; color: #667eea; \x7d",
   ".stat-value.passed-text \x7b color: #28a745; \x7d",
   ".stat-value.failed-text \x7b color: #dc3545; \x7d",
   ".stat-label \x7b color: #6c757d; margin-top: 5px; \x7d",
   ".section \x7b padding: 30px; \x7d",
   ".section h2 \x7b margin-bottom: 20px; \x7d",
   ".test-case \x7b border: 2px solid #dee2e6; border-radius: 8px; margin-bottom: 20px; " ++
     "overflow: hidden; \x7d",
   ".test-case.passed \x7b border-left: 5px solid #28a745; \x7d",
   ".test-case.failed \x7b border-left: 5px solid #dc3545; \x7d",
   ".test-case-header \x7b padding: 20px; background: #f8f9fa; display: flex; " ++
     "justify-content: space-between; align-items: center; \x7d",
   ".test-case-name \x7b font-size: 1.3em; font-weight: bold; \x7d",
   ".test-case-body \x7b padding: 20px; \x7d",
   ".status-badge \x7b padding: 6px 15px; border-radius: 20px; font-weight: bold; color: " ++
     "white; \x7d",
   ".status-passed \x7b background: #28a745; \x7d",
   ".status-failed \x7b background: #dc3545; \x7d",
   ".folder-link, .screenshot-link \x7b display: inline-block; color: white; " ++
     "text-decoration: none; border-radius: 5px; \x7d",
   ".folder-link \x7b margin: 10px 0; padding: 8px 15px; background: #667eea; font-weight: " ++
     "bold; \x7d",
   ".screenshot-link \x7b padding: 5px 12px; background: #28a745; font-size: 0.85em; \x7d",
   ".error-message \x7b color: #dc3545; font-size: 0.9em; margin-top: 8px; padding: 10px; " ++
     "background: #fff5f5; border-radius: 5px; \x7d",
   ".steps-table \x7b width: 100%; border-collapse: collapse; margin-top: 15px; \x7d",
   ".steps-table thead \x7b background: #667eea; color: white; \x7d",
   ".steps-table th, .steps-table td \x7b padding: 10px; border: 1px solid #dee2e6; " ++
     "text-align: left; vertical-align: middle; \x7d",
   ".steps-table tr.passed \x7b background: #f0fff4; \x7d",
   ".steps-table tr.failed \x7b background: #fff5f5; \x7d",
   ".action-badge \x7b display: inline-block; padding: 4px 10px; background: #667eea; " ++
     "color: white; border-radius: 12px; font-size: 0.85em; font-weight: 600; \x7d",
   ".status-icon-passed \x7b color: #28a745; font-size: 1.4em; \x7d",
   ".status-icon-failed \x7b color: #dc3545; font-size: 1.4em; \x7d",
   ".bar \x7b height: 8px; background: #e9ecef; border-radius: 4px; overflow: hidden; \x7d",
   ".bar-fill \x7b height: 100%; background: linear-gradient(90deg, #667eea, #764ba2); \x7d",
   ".footer \x7b padding: 20px 30px; color: #6c757d; font-size: 0.9em; background: #f8f9fa; \x7d"]

def style : String := String.join (styleLines.map fun line => line ++ "\n")

end StepSheet.Report
